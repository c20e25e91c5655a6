import SpanGauge.Proofs.Text.Utf8

/-! Well-formed sequences of bytes are the encodings of the characters read from them, so a
valid text is given back by its characters, and a byte below 128 is never part of a longer
sequence. -/
namespace SpanGauge.Text

section Numbers

variable {n : Nat}

theorem val_ofNat (valid : n.isValidChar) : (Char.ofNat n).val.toNat = n :=
  toNat_ofNat valid

theorem encode_two (least : 128 ≤ n) (most : n ≤ 2047) :
    encode (Char.ofNat n) = [UInt8.ofNat (n / 64 + 192), UInt8.ofNat (n % 64 + 128)] := by
  have valid : n.isValidChar := .inl (by omega)
  have lead : n / 64 % 32 = n / 64 := by omega
  rw [encode, String.utf8EncodeChar, val_ofNat valid, if_neg (by omega), if_pos most, lead]

theorem encode_three (least : 2048 ≤ n) (most : n ≤ 65535) (valid : n.isValidChar) :
    encode (Char.ofNat n) = [UInt8.ofNat (n / 4096 + 224), UInt8.ofNat (n / 64 % 64 + 128),
      UInt8.ofNat (n % 64 + 128)] := by
  have lead : n / 4096 % 16 = n / 4096 := by omega
  rw [encode, String.utf8EncodeChar, val_ofNat valid, if_neg (by omega), if_neg (by omega),
    if_pos most, lead]

theorem encode_four (least : 65536 ≤ n) (most : n < 1114112) :
    encode (Char.ofNat n) = [UInt8.ofNat (n / 262144 + 240), UInt8.ofNat (n / 4096 % 64 + 128),
      UInt8.ofNat (n / 64 % 64 + 128), UInt8.ofNat (n % 64 + 128)] := by
  have valid : n.isValidChar := .inr ⟨by omega, most⟩
  have lead : n / 262144 % 8 = n / 262144 := by omega
  rw [encode, String.utf8EncodeChar, val_ofNat valid, if_neg (by omega), if_neg (by omega),
    if_neg (by omega), lead]

end Numbers

theorem eq_ofNat {b : UInt8} {n : Nat} (value : b.toNat = n) : UInt8.ofNat n = b := by
  rw [← value, UInt8.ofNat_toNat]

theorem second_bounds {b c : UInt8} (lower : ¬ c < (secondBounds b).1)
    (upper : ¬ c > (secondBounds b).2) :
    128 ≤ c.toNat ∧ c.toNat ≤ 191 ∧ (b.toNat = 224 → 160 ≤ c.toNat) ∧
      (b.toNat = 237 → c.toNat ≤ 159) ∧ (b.toNat = 240 → 144 ≤ c.toNat) ∧
      (b.toNat = 244 → c.toNat ≤ 143) := by
  have own : ∀ {k : UInt8}, b.toNat = k.toNat → secondBounds b = secondBounds k :=
    fun same => congrArg secondBounds (UInt8.toNat_inj.mp same)
  have every : ∀ b : UInt8, 0x80 ≤ (secondBounds b).1 ∧ (secondBounds b).2 ≤ 0xBF := by
    intro b
    unfold secondBounds
    split_ifs <;> decide
  have least : c ≥ (secondBounds b).1 := UInt8.not_lt.mp lower
  have most : c ≤ (secondBounds b).2 := UInt8.not_lt.mp upper
  refine ⟨?_, ?_, ?_, ?_, ?_, ?_⟩
  · exact UInt8.le_iff_toNat_le.mp (UInt8.le_trans (every b).1 least)
  · exact UInt8.le_iff_toNat_le.mp (UInt8.le_trans most (every b).2)
  · intro same
    rw [own (k := 0xE0) same] at least
    exact UInt8.le_iff_toNat_le.mp least
  · intro same
    rw [own (k := 0xED) same] at most
    exact UInt8.le_iff_toNat_le.mp most
  · intro same
    rw [own (k := 0xF0) same] at least
    exact UInt8.le_iff_toNat_le.mp least
  · intro same
    rw [own (k := 0xF4) same] at most
    exact UInt8.le_iff_toNat_le.mp most

theorem tail_bounds {d : UInt8} (tail : isTail d = true) : 128 ≤ d.toNat ∧ d.toNat ≤ 191 := by
  simpa [isTail, UInt8.le_iff_toNat_le] using tail

/-- A character with its encoding: one byte below 128, or more that are all from 128 on. -/
structure Rune.Whole (r : Rune) : Prop where
  encoded : encode r.char = r.bytes
  size : (∃ b, b < 0x80 ∧ r = ⟨charOf b, [b]⟩) ∨
    128 ≤ r.char.toNat ∧ ∀ b ∈ r.bytes, 128 ≤ b.toNat

section Sizes

variable {b c d e : UInt8}

theorem whole_one (ascii : b < 0x80) : Rune.Whole ⟨charOf b, [b]⟩ where
  encoded := by
    have small : b.toNat < 128 := UInt8.lt_iff_toNat_lt.mp ascii
    have value : (charOf b).val.toNat = b.toNat := charOf_toNat b
    rw [encode, String.utf8EncodeChar, value, if_pos (by omega), UInt8.ofNat_toNat]
  size := .inl ⟨b, ascii, rfl⟩

theorem whole_two (hb : 194 ≤ b.toNat) (hb' : b.toNat < 224) (hc : 128 ≤ c.toNat)
    (hc' : c.toNat ≤ 191) :
    Rune.Whole ⟨Char.ofNat ((b.toNat - 0xC0) * 64 + sextet c), [b, c]⟩ := by
  unfold sextet
  have valid : ((b.toNat - 0xC0) * 64 + c.toNat % 64).isValidChar := .inl (by omega)
  refine ⟨?_, .inr ⟨?_, ?_⟩⟩
  · rw [encode_two (by omega) (by omega), eq_ofNat (b := b) (by omega), eq_ofNat (b := c) (by omega)]
  · rw [toNat_ofNat valid]
    omega
  · simp only [List.mem_cons, List.not_mem_nil, or_false, forall_eq_or_imp, forall_eq]
    omega

theorem whole_three (hb : 224 ≤ b.toNat) (hb' : b.toNat < 240) (hc : 128 ≤ c.toNat)
    (hc' : c.toNat ≤ 191) (e0 : b.toNat = 224 → 160 ≤ c.toNat) (ed : b.toNat = 237 → c.toNat ≤ 159)
    (hd : 128 ≤ d.toNat) (hd' : d.toNat ≤ 191) :
    Rune.Whole ⟨Char.ofNat ((b.toNat - 0xE0) * 4096 + sextet c * 64 + sextet d), [b, c, d]⟩ := by
  unfold sextet
  have valid : ((b.toNat - 0xE0) * 4096 + c.toNat % 64 * 64 + d.toNat % 64).isValidChar := by
    unfold Nat.isValidChar
    omega
  refine ⟨?_, .inr ⟨?_, ?_⟩⟩
  · rw [encode_three (by omega) (by omega) valid, eq_ofNat (b := b) (by omega),
      eq_ofNat (b := c) (by omega), eq_ofNat (b := d) (by omega)]
  · rw [toNat_ofNat valid]
    omega
  · simp only [List.mem_cons, List.not_mem_nil, or_false, forall_eq_or_imp, forall_eq]
    omega

theorem whole_four (hb : 240 ≤ b.toNat) (hb' : b.toNat ≤ 244) (hc : 128 ≤ c.toNat)
    (hc' : c.toNat ≤ 191) (f0 : b.toNat = 240 → 144 ≤ c.toNat) (f4 : b.toNat = 244 → c.toNat ≤ 143)
    (hd : 128 ≤ d.toNat) (hd' : d.toNat ≤ 191) (he : 128 ≤ e.toNat) (he' : e.toNat ≤ 191) :
    Rune.Whole ⟨Char.ofNat ((b.toNat - 0xF0) * 262144 + sextet c * 4096 + sextet d * 64 +
      sextet e), [b, c, d, e]⟩ := by
  unfold sextet
  have valid : ((b.toNat - 0xF0) * 262144 + c.toNat % 64 * 4096 + d.toNat % 64 * 64 +
      e.toNat % 64).isValidChar := .inr (by omega)
  refine ⟨?_, .inr ⟨?_, ?_⟩⟩
  · rw [encode_four (by omega) (by omega), eq_ofNat (b := b) (by omega),
      eq_ofNat (b := c) (by omega), eq_ofNat (b := d) (by omega), eq_ofNat (b := e) (by omega)]
  · rw [toNat_ofNat valid]
    omega
  · simp only [List.mem_cons, List.not_mem_nil, or_false, forall_eq_or_imp, forall_eq]
    omega

end Sizes

theorem broken_single (b : UInt8) : Rune.broken ⟨replacement, [b]⟩ = true := by
  simp [Rune.broken]

theorem first_whole (b : UInt8) (rest : Bytes) :
    (first b rest).broken = true ∨ (first b rest).Whole ∧ (first b rest).bytes <+: b :: rest := by
  unfold first
  dsimp only
  split
  · rename_i ascii
    exact .inr ⟨whole_one ascii, rest, rfl⟩
  split
  · exact .inl (broken_single b)
  rename_i lead
  have bounds : 194 ≤ b.toNat ∧ b.toNat ≤ 244 := by
    simp [UInt8.lt_iff_toNat_lt] at lead
    omega
  cases rest with
  | nil => exact .inl (broken_single b)
  | cons c rest =>
    dsimp only
    split
    · exact .inl (broken_single b)
    rename_i second
    rw [Bool.or_eq_true, decide_eq_true_iff, decide_eq_true_iff, not_or] at second
    obtain ⟨hc, hc', e0, ed, f0, f4⟩ := second_bounds second.1 second.2
    split
    · rename_i two
      have two : b.toNat < 224 := UInt8.lt_iff_toNat_lt.mp two
      exact .inr ⟨whole_two bounds.1 two hc hc', rest, rfl⟩
    rename_i wide
    have wide : 224 ≤ b.toNat := UInt8.le_iff_toNat_le.mp (UInt8.not_lt.mp wide)
    cases rest with
    | nil => exact .inl (broken_single b)
    | cons d rest =>
      dsimp only
      split
      · exact .inl (broken_single b)
      rename_i third
      obtain ⟨hd, hd'⟩ := tail_bounds (by simpa using third)
      split
      · rename_i three
        have three : b.toNat < 240 := UInt8.lt_iff_toNat_lt.mp three
        exact .inr ⟨whole_three wide three hc hc' e0 ed hd hd', rest, rfl⟩
      rename_i wider
      have wider : 240 ≤ b.toNat := UInt8.le_iff_toNat_le.mp (UInt8.not_lt.mp wider)
      cases rest with
      | nil => exact .inl (broken_single b)
      | cons e rest =>
        dsimp only
        split
        · exact .inl (broken_single b)
        rename_i fourth
        obtain ⟨he, he'⟩ := tail_bounds (by simpa using fourth)
        exact .inr ⟨whole_four wider bounds.2 hc hc' f0 f4 hd hd' he he', rest, rfl⟩

section Boundary

variable {a : UInt8}

theorem first_char_ascii (ascii : a < 0x80) {b : UInt8} {rest : Bytes}
    (same : (first b rest).char = charOf a) : b = a := by
  have small : a.toNat < 128 := UInt8.lt_iff_toNat_lt.mp ascii
  rcases first_whole b rest with broken | ⟨whole, tail, split⟩
  · rw [Rune.broken, Bool.and_eq_true, beq_iff_eq, same] at broken
    have value : replacement.toNat = a.toNat := by rw [← broken.1, charOf_toNat]
    have large : replacement.toNat = 65533 := rfl
    omega
  · rcases whole.size with ⟨c, -, single⟩ | ⟨large, -⟩
    · rw [single] at same split
      cases split
      exact charOf_inj.mp same
    · rw [same, charOf_toNat] at large
      omega

theorem mem_of_mem_chars (ascii : a < 0x80) {s : Bytes} (member : charOf a ∈ chars s) : a ∈ s := by
  induction s using runes_induct with
  | nil =>
    rw [chars, runes_nil] at member
    cases member
  | step b more rest bytes ih =>
    rw [chars, runes_step bytes, List.map_cons, List.mem_cons] at member
    rcases member with here | later
    · rw [first_char_ascii ascii here.symm]
      exact List.mem_cons_self
    · exact List.mem_cons_of_mem b (List.mem_append_right more (ih later))

end Boundary

theorem feed_of_mem_chars {s : Bytes} (member : '\n' ∈ chars s) : feed ∈ s :=
  mem_of_mem_chars (by decide) member

theorem runes_of_valid {s : Bytes} (valid : isValid s = true) :
    ∀ r ∈ runes s, r.broken = false ∧ r.Whole := by
  induction s using runes_induct with
  | nil =>
    rw [runes_nil]
    exact fun r member => nomatch member
  | step b more rest bytes ih =>
    rw [isValid, runes_step bytes, List.all_cons, Bool.and_eq_true, Bool.not_eq_true'] at valid
    obtain ⟨unbroken, valid⟩ := valid
    have whole : (first b (more ++ rest)).Whole := by
      rcases first_whole b (more ++ rest) with broken | ⟨whole, -⟩
      · rw [unbroken] at broken
        cases broken
      · exact whole
    rw [runes_step bytes]
    intro r member
    rcases List.mem_cons.mp member with rfl | later
    · exact ⟨unbroken, whole⟩
    · exact ih valid r later

theorem ofChars_chars {s : Bytes} (valid : isValid s = true) : ofChars (chars s) = s := by
  have encoded : ∀ r ∈ runes s, encode r.char = r.bytes := fun r member =>
    (runes_of_valid valid r member).2.encoded
  have bytes : (runes s).flatMap Rune.bytes = s := ofRunes_runes s
  rw [ofChars, chars, List.flatMap_map, List.flatMap_congr encoded, bytes]

theorem Rune.Whole.single {r : Rune} (whole : r.Whole) {b : UInt8} (bytes : r.bytes = [b]) :
    b < 0x80 := by
  rcases whole.size with ⟨c, ascii, rfl⟩ | ⟨large, -⟩
  · cases bytes
    exact ascii
  · have size : r.char.utf8Size = 1 := by
      rw [← String.length_utf8EncodeChar, show String.utf8EncodeChar r.char = [b] from
        whole.encoded.trans bytes, List.length_singleton]
    have small : r.char.toNat ≤ 127 := Char.utf8Size_eq_one_iff.mp size
    omega

theorem runes_length (s : Bytes) : (runes s).length ≤ s.length := by
  induction s using runes_induct with
  | nil => simp [runes_nil]
  | step b more rest bytes ih =>
    rw [runes_step bytes, List.length_cons, List.length_cons, List.length_append]
    omega

theorem ascii_of_length {s : Bytes} (whole : ∀ r ∈ runes s, r.broken = false ∧ r.Whole)
    (same : (runes s).length = s.length) : ∀ b ∈ s, b < 0x80 := by
  induction s using runes_induct with
  | nil => exact fun b member => nomatch member
  | step b more rest bytes ih =>
    have shorter := runes_length rest
    rw [runes_step bytes] at same whole
    rw [List.length_cons, List.length_cons, List.length_append] at same
    obtain rfl : more = [] := List.length_eq_zero_iff.mp (by omega)
    rw [List.nil_append, List.forall_mem_cons]
    refine ⟨(whole _ List.mem_cons_self).2.single bytes, ih ?_ ?_⟩
    · exact fun r member => whole r (List.mem_cons_of_mem _ member)
    · rw [List.length_nil] at same
      omega

/-- In a valid text each byte is a character by itself exactly if all are below 128. -/
theorem chars_eq_map_iff {s : Bytes} (valid : isValid s = true) :
    chars s = s.map charOf ↔ ∀ b ∈ s, b < 0x80 := by
  refine ⟨fun same => ascii_of_length (runes_of_valid valid) ?_, chars_ascii⟩
  have lengths := congrArg List.length same
  rwa [chars, List.length_map, List.length_map] at lengths

end SpanGauge.Text
