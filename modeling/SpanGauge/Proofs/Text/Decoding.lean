import SpanGauge.Proofs.Text.Encoding

/-! Characters are read back from their encodings, whatever follows them, so a text that is put
together from characters has just these. -/
namespace SpanGauge.Text

section Bounds

variable {b c d e : UInt8}

theorem within_second (hc : 128 ≤ c.toNat) (hc' : c.toNat ≤ 191)
    (e0 : b.toNat = 224 → 160 ≤ c.toNat) (ed : b.toNat = 237 → c.toNat ≤ 159)
    (f0 : b.toNat = 240 → 144 ≤ c.toNat) (f4 : b.toNat = 244 → c.toNat ≤ 143) :
    (c < (secondBounds b).1 || c > (secondBounds b).2) = false := by
  simp only [Bool.or_eq_false_iff, decide_eq_false_iff_not, gt_iff_lt, UInt8.lt_iff_toNat_lt]
  have value : ∀ {k : UInt8}, (b == k) = true → b.toNat = k.toNat := fun same => by
    rw [eq_of_beq same]
  unfold secondBounds
  split
  · rename_i same
    have least := e0 (value same)
    exact ⟨Nat.not_lt.mpr least, Nat.not_lt.mpr hc'⟩
  split
  · rename_i same
    have most := ed (value same)
    exact ⟨Nat.not_lt.mpr hc, Nat.not_lt.mpr most⟩
  split
  · rename_i same
    have least := f0 (value same)
    exact ⟨Nat.not_lt.mpr least, Nat.not_lt.mpr hc'⟩
  split
  · rename_i same
    have most := f4 (value same)
    exact ⟨Nat.not_lt.mpr hc, Nat.not_lt.mpr most⟩
  · exact ⟨Nat.not_lt.mpr hc, Nat.not_lt.mpr hc'⟩

theorem isTail_of_bounds (hd : 128 ≤ d.toNat) (hd' : d.toNat ≤ 191) : isTail d = true := by
  simp only [isTail, Bool.and_eq_true, decide_eq_true_eq, UInt8.le_iff_toNat_le]
  exact ⟨hd, hd'⟩

theorem not_small (hb : 128 ≤ b.toNat) : ¬ b < 0x80 := by
  rw [UInt8.lt_iff_toNat_lt]
  exact Nat.not_lt.mpr hb

theorem not_stray (hb : 194 ≤ b.toNat) (hb' : b.toNat ≤ 244) :
    (b < 0xC2 || b > 0xF4) = false := by
  simp only [Bool.or_eq_false_iff, decide_eq_false_iff_not, gt_iff_lt, UInt8.lt_iff_toNat_lt]
  exact ⟨Nat.not_lt.mpr hb, Nat.not_lt.mpr hb'⟩

theorem first_two (hb : 194 ≤ b.toNat) (hb' : b.toNat < 224) (hc : 128 ≤ c.toNat)
    (hc' : c.toNat ≤ 191) (rest : Bytes) :
    first b (c :: rest) = ⟨Char.ofNat ((b.toNat - 0xC0) * 64 + sextet c), [b, c]⟩ := by
  have two : b < 0xE0 := UInt8.lt_iff_toNat_lt.mpr hb'
  have second := within_second (b := b) hc hc' (by omega) (by omega) (by omega) (by omega)
  unfold first
  simp only [not_small (b := b) (by omega), not_stray (b := b) hb (by omega), second, two,
    Bool.false_eq_true, if_false, if_true]

theorem first_three (hb : 224 ≤ b.toNat) (hb' : b.toNat < 240) (hc : 128 ≤ c.toNat)
    (hc' : c.toNat ≤ 191) (e0 : b.toNat = 224 → 160 ≤ c.toNat)
    (ed : b.toNat = 237 → c.toNat ≤ 159) (hd : 128 ≤ d.toNat) (hd' : d.toNat ≤ 191)
    (rest : Bytes) :
    first b (c :: d :: rest) =
      ⟨Char.ofNat ((b.toNat - 0xE0) * 4096 + sextet c * 64 + sextet d), [b, c, d]⟩ := by
  have two : ¬ b < 0xE0 := by
    rw [UInt8.lt_iff_toNat_lt]
    exact Nat.not_lt.mpr hb
  have three : b < 0xF0 := UInt8.lt_iff_toNat_lt.mpr hb'
  have second := within_second (b := b) hc hc' e0 ed (by omega) (by omega)
  unfold first
  simp only [not_small (b := b) (by omega), not_stray (b := b) (by omega) (by omega), second, two,
    isTail_of_bounds hd hd', three, Bool.not_true, Bool.false_eq_true, if_false, if_true]

theorem first_four (hb : 240 ≤ b.toNat) (hb' : b.toNat ≤ 244) (hc : 128 ≤ c.toNat)
    (hc' : c.toNat ≤ 191) (f0 : b.toNat = 240 → 144 ≤ c.toNat)
    (f4 : b.toNat = 244 → c.toNat ≤ 143) (hd : 128 ≤ d.toNat) (hd' : d.toNat ≤ 191)
    (he : 128 ≤ e.toNat) (he' : e.toNat ≤ 191) (rest : Bytes) :
    first b (c :: d :: e :: rest) =
      ⟨Char.ofNat ((b.toNat - 0xF0) * 262144 + sextet c * 4096 + sextet d * 64 + sextet e),
        [b, c, d, e]⟩ := by
  have two : ¬ b < 0xE0 := by
    rw [UInt8.lt_iff_toNat_lt]
    exact Nat.not_lt.mpr (Nat.le_trans (by decide) hb)
  have three : ¬ b < 0xF0 := by
    rw [UInt8.lt_iff_toNat_lt]
    exact Nat.not_lt.mpr hb
  have second := within_second (b := b) hc hc' (by omega) (by omega) f0 f4
  unfold first
  simp only [not_small (b := b) (by omega), not_stray (b := b) (by omega) hb', second, two,
    isTail_of_bounds hd hd', isTail_of_bounds he he', three, Bool.not_true, Bool.false_eq_true,
    if_false]

end Bounds

theorem toNat_ofNat_byte {n : Nat} (small : n < 256) : (UInt8.ofNat n).toNat = n := by
  rw [UInt8.toNat_ofNat', Nat.mod_eq_of_lt small]

theorem first_encode (c : Char) :
    ∃ b more, encode c = b :: more ∧ ∀ rest, first b (more ++ rest) = ⟨c, encode c⟩ := by
  have valid : c.toNat.isValidChar := c.valid
  have whole : Char.ofNat c.toNat = c := Char.ofNat_toNat c
  generalize c.toNat = n at valid whole
  subst whole
  by_cases one : n < 128
  · have ascii : UInt8.ofNat n < 0x80 := by
      rw [UInt8.lt_iff_toNat_lt, toNat_ofNat_byte (by omega)]
      exact one
    have same : charOf (UInt8.ofNat n) = Char.ofNat n := by
      rw [charOf, toNat_ofNat_byte (by omega)]
    have encoded := (whole_one ascii).encoded
    rw [same] at encoded
    refine ⟨UInt8.ofNat n, [], encoded, fun rest => ?_⟩
    rw [first_ascii ascii, same, encoded]
  by_cases two : n ≤ 2047
  · have encoded := encode_two (n := n) (by omega) two
    refine ⟨_, _, encoded, fun rest => ?_⟩
    have hb := toNat_ofNat_byte (n := n / 64 + 192) (by omega)
    have hc := toNat_ofNat_byte (n := n % 64 + 128) (by omega)
    rw [List.singleton_append, first_two (by omega) (by omega) (by omega) (by omega), encoded,
      sextet, hb, hc]
    congr 2
    omega
  by_cases three : n ≤ 65535
  · have encoded := encode_three (n := n) (by omega) three valid
    refine ⟨_, _, encoded, fun rest => ?_⟩
    have hb := toNat_ofNat_byte (n := n / 4096 + 224) (by omega)
    have hc := toNat_ofNat_byte (n := n / 64 % 64 + 128) (by omega)
    have hd := toNat_ofNat_byte (n := n % 64 + 128) (by omega)
    have gap : n < 55296 ∨ 57343 < n := by
      unfold Nat.isValidChar at valid
      omega
    rw [List.cons_append, List.singleton_append, first_three (by omega) (by omega) (by omega)
      (by omega) (by omega) (by omega) (by omega) (by omega), encoded, sextet, sextet, hb, hc, hd]
    congr 2
    omega
  · have most : n < 1114112 := by
      unfold Nat.isValidChar at valid
      omega
    have encoded := encode_four (n := n) (by omega) most
    refine ⟨_, _, encoded, fun rest => ?_⟩
    have hb := toNat_ofNat_byte (n := n / 262144 + 240) (by omega)
    have hc := toNat_ofNat_byte (n := n / 4096 % 64 + 128) (by omega)
    have hd := toNat_ofNat_byte (n := n / 64 % 64 + 128) (by omega)
    have he := toNat_ofNat_byte (n := n % 64 + 128) (by omega)
    rw [List.cons_append, List.cons_append, List.singleton_append, first_four (by omega) (by omega)
      (by omega) (by omega) (by omega) (by omega) (by omega) (by omega) (by omega) (by omega),
      encoded, sextet, sextet, sextet, hb, hc, hd, he]
    congr 2
    omega

def runeOfChar (c : Char) : Rune := ⟨c, encode c⟩

theorem runes_encode (c : Char) (rest : Bytes) :
    runes (encode c ++ rest) = runeOfChar c :: runes rest := by
  obtain ⟨b, more, encoded, read⟩ := first_encode c
  have bytes : (first b (more ++ rest)).bytes = b :: more := by rw [read, encoded]
  rw [encoded, List.cons_append, runes_step bytes, read, runeOfChar]

theorem runes_ofChars (cs : List Char) : runes (ofChars cs) = cs.map runeOfChar := by
  induction cs with
  | nil => exact runes_nil
  | cons c cs ih =>
    have split : ofChars (c :: cs) = encode c ++ ofChars cs := List.flatMap_cons
    rw [split, runes_encode, ih, List.map_cons]

theorem chars_ofChars (cs : List Char) : chars (ofChars cs) = cs := by
  rw [chars, runes_ofChars, List.map_map]
  exact List.map_id cs

end SpanGauge.Text
