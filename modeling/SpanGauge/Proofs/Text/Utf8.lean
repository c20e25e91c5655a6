import Mathlib.Data.List.Basic
import Mathlib.Tactic.SplitIfs
import SpanGauge.Text.Blank
import SpanGauge.Text.Lines

/-! Characters of plain text. A byte below 128 is a character on its own, and no character
reaches across one: the texts before and behind it are read apart. -/
namespace SpanGauge.Text

def charOf (b : UInt8) : Char := Char.ofNat b.toNat

theorem toNat_ofNat {n : Nat} (valid : n.isValidChar) : (Char.ofNat n).toNat = n := by
  rw [Char.ofNat, dif_pos valid]
  rfl

theorem charOf_toNat (b : UInt8) : (charOf b).toNat = b.toNat := by
  have bound := b.toNat_lt
  exact toNat_ofNat (.inl (by omega))

theorem charOf_inj {a b : UInt8} : charOf a = charOf b ↔ a = b := by
  rw [← Char.toNat_inj, charOf_toNat, charOf_toNat, UInt8.toNat_inj]

theorem runesFrom_eq (acc : List Rune) (s : Bytes) : runesFrom acc s = acc.reverse ++ runes s := by
  -- one character more on either side of the reading, for all that was read before
  induction h : s.length using Nat.strongRecOn generalizing acc s with
  | _ n ih =>
    subst h
    cases s with
    | nil => simp only [runes, runesFrom, List.reverse_nil, List.append_nil]
    | cons b rest =>
      have shorter : (rest.drop ((first b rest).bytes.length - 1)).length < (b :: rest).length := by
        rw [List.length_drop, List.length_cons]
        omega
      simp only [runes, runesFrom]
      rw [ih _ shorter _ _ rfl, ih _ shorter [first b rest] _ rfl]
      simp

theorem runes_cons (b : UInt8) (rest : Bytes) :
    runes (b :: rest) =
      first b rest :: runes (rest.drop ((first b rest).bytes.length - 1)) := by
  rw [runes, runesFrom, runesFrom_eq]
  rfl

theorem first_bytes (b : UInt8) (rest : Bytes) :
    ∃ more, (first b rest).bytes = b :: more ∧ more <+: rest := by
  unfold first
  dsimp only
  split
  · exact ⟨[], rfl, List.nil_prefix⟩
  split
  · exact ⟨[], rfl, List.nil_prefix⟩
  cases rest with
  | nil => exact ⟨[], rfl, List.nil_prefix⟩
  | cons c rest =>
    dsimp only
    split
    · exact ⟨[], rfl, List.nil_prefix⟩
    split
    · exact ⟨[c], rfl, rest, rfl⟩
    cases rest with
    | nil => exact ⟨[], rfl, List.nil_prefix⟩
    | cons d rest =>
      dsimp only
      split
      · exact ⟨[], rfl, List.nil_prefix⟩
      split
      · exact ⟨[c, d], rfl, rest, rfl⟩
      cases rest with
      | nil => exact ⟨[], rfl, List.nil_prefix⟩
      | cons e rest =>
        dsimp only
        split
        · exact ⟨[], rfl, List.nil_prefix⟩
        · exact ⟨[c, d, e], rfl, rest, rfl⟩

theorem runes_induct {motive : Bytes → Prop} (nil : motive [])
    (step : ∀ b more rest, (first b (more ++ rest)).bytes = b :: more → motive rest →
      motive (b :: (more ++ rest))) (s : Bytes) : motive s := by
  induction h : s.length using Nat.strongRecOn generalizing s with
  | _ n ih =>
    subst h
    cases s with
    | nil => exact nil
    | cons b rest =>
      obtain ⟨more, bytes, rest, rfl⟩ := first_bytes b rest
      refine step b more rest bytes (ih rest.length ?_ rest rfl)
      rw [List.length_cons, List.length_append]
      omega

theorem runes_nil : runes [] = [] := by
  rw [runes, runesFrom, List.reverse_nil]

theorem runes_step {b : UInt8} {more rest : Bytes}
    (bytes : (first b (more ++ rest)).bytes = b :: more) :
    runes (b :: (more ++ rest)) = first b (more ++ rest) :: runes rest := by
  rw [runes_cons, bytes, List.length_cons, Nat.add_sub_cancel, List.drop_left]

theorem ofRunes_runes (s : Bytes) : ofRunes (runes s) = s := by
  induction s using runes_induct with
  | nil => rw [runes_nil, ofRunes, List.flatMap_nil]
  | step b more rest bytes ih =>
    rw [runes_step bytes, ofRunes, List.flatMap_cons, bytes]
    exact congrArg (b :: more ++ ·) ih

theorem first_ascii {b : UInt8} (ascii : b < 0x80) (rest : Bytes) :
    first b rest = ⟨charOf b, [b]⟩ := by
  simp only [first, ascii, ↓reduceIte, charOf]

theorem runes_ascii {s : Bytes} (ascii : ∀ b ∈ s, b < 0x80) :
    runes s = s.map fun b => ⟨charOf b, [b]⟩ := by
  induction s with
  | nil => simp only [runes, runesFrom, List.reverse_nil, List.map_nil]
  | cons b s ih =>
    have rest := ih fun c hc => ascii c (List.mem_cons_of_mem b hc)
    rw [runes_cons, first_ascii (ascii b (List.mem_cons_self ..))]
    simpa using rest

theorem chars_ascii {s : Bytes} (ascii : ∀ b ∈ s, b < 0x80) : chars s = s.map charOf := by
  rw [chars, runes_ascii ascii, List.map_map]
  rfl

section Boundary

variable {a : UInt8}

/-- A character that begins before a byte below 128 is read without it. -/
theorem first_before (ascii : a < 0x80) (b : UInt8) (rest more : Bytes) :
    first b (rest ++ a :: more) = first b rest := by
  have second : ∀ b, a < (secondBounds b).1 := by
    intro b
    have least : 0x80 ≤ (secondBounds b).1 := by
      unfold secondBounds
      split_ifs <;> decide
    exact UInt8.lt_of_lt_of_le ascii least
  have tail : isTail a = false := by
    have small : ¬ 0x80 ≤ a := UInt8.not_le.mpr ascii
    simp [isTail, small]
  unfold first
  dsimp only
  split
  · rfl
  split
  · rfl
  match rest with
  | [] => simp [second]
  | [c] => simp [tail]
  | [c, d] => simp [tail]
  | c :: d :: e :: rest => rfl

/-- A text is read on either side of a byte below 128 by itself. -/
theorem runes_append (ascii : a < 0x80) (s more : Bytes) :
    runes (s ++ a :: more) = runes s ++ ⟨charOf a, [a]⟩ :: runes more := by
  induction s using runes_induct with
  | nil =>
    rw [List.nil_append, runes_cons, first_ascii ascii, runes_nil]
    rfl
  | step b here rest bytes ih =>
    have same : first b (here ++ (rest ++ a :: more)) = first b (here ++ rest) := by
      rw [← List.append_assoc, first_before ascii]
    rw [List.cons_append, List.append_assoc, runes_step (same ▸ bytes), runes_step bytes, ih, same,
      List.cons_append]

theorem chars_append (ascii : a < 0x80) (s more : Bytes) :
    chars (s ++ a :: more) = chars s ++ charOf a :: chars more := by
  simp only [chars, runes_append ascii, List.map_append, List.map_cons]

end Boundary

section Trimming

variable {s : Bytes}

theorem runes_bytes (s : Bytes) : ∀ r ∈ runes s, r.bytes ≠ [] := by
  induction s using runes_induct with
  | nil => simp [runes_nil]
  | step b more rest bytes ih =>
    rw [runes_step bytes]
    intro r member
    rcases List.mem_cons.mp member with rfl | later
    · simp [bytes]
    · exact ih r later

theorem ofRunes_append (rs rs' : List Rune) : ofRunes (rs ++ rs') = ofRunes rs ++ ofRunes rs' := by
  simp [ofRunes]

theorem ofRunes_within {rs rs' : List Rune} (cut : rs <:+: rs') : ofRunes rs <:+: ofRunes rs' := by
  obtain ⟨before, after, rfl⟩ := cut
  exact ⟨ofRunes before, ofRunes after, by simp only [ofRunes_append]⟩

theorem eq_of_ofRunes {rs rs' : List Rune} (some : ∀ r ∈ rs', r.bytes ≠ []) (cut : rs <:+: rs')
    (same : ofRunes rs = ofRunes rs') : rs = rs' := by
  obtain ⟨before, after, rfl⟩ := cut
  have empty : ∀ l ⊆ before ++ rs ++ after, (ofRunes l).length = 0 → l = [] := by
    intro l inside size
    rw [List.length_eq_zero_iff, ofRunes, List.flatMap_eq_nil_iff] at size
    exact List.eq_nil_iff_forall_not_mem.mpr fun r member => some r (inside member) (size r member)
  have size := congrArg List.length same
  rw [ofRunes_append, ofRunes_append, List.length_append, List.length_append] at size
  rw [empty before (by simp) (by omega), empty after (by simp) (by omega)]
  simp

def inner (rs : List Rune) : List Rune :=
  ((rs.dropWhile blankRune).reverse.dropWhile blankRune).reverse

theorem inner_front (rs : List Rune) : inner rs <+: rs.dropWhile blankRune := by
  have back := List.reverse_prefix.mpr
    (List.dropWhile_suffix blankRune (l := (rs.dropWhile blankRune).reverse))
  rwa [List.reverse_reverse] at back

theorem inner_within (rs : List Rune) : inner rs <:+: rs :=
  (inner_front rs).isInfix.trans (List.dropWhile_suffix blankRune).isInfix

theorem not_blank_of_dropWhile (rs : List Rune) {r : Rune}
    (first : (rs.dropWhile blankRune).head? = some r) : blankRune r = false := by
  have visible := List.head?_dropWhile_not blankRune rs
  rwa [first] at visible

theorem trim_within (s : Bytes) : trim s <:+: s := by
  have cut := ofRunes_within (inner_within (runes s))
  rwa [ofRunes_runes] at cut

theorem ends_of_trim (same : trim s = s) :
    (∀ c, (chars s).head? = some c → isBlank c = false) ∧
      ∀ c, (chars s).getLast? = some c → isBlank c = false := by
  have whole : inner (runes s) = runes s :=
    eq_of_ofRunes (runes_bytes s) (inner_within _) (by rw [ofRunes_runes]; exact same)
  constructor
  · intro c first
    rw [chars, List.head?_map, Option.map_eq_some_iff] at first
    obtain ⟨r, first, rfl⟩ := first
    obtain ⟨rest, front⟩ := inner_front (runes s)
    refine not_blank_of_dropWhile (runes s) ?_
    rw [← front, List.head?_append, whole, first]
    rfl
  · intro c last
    rw [chars, List.getLast?_map, Option.map_eq_some_iff] at last
    obtain ⟨r, last, rfl⟩ := last
    rw [← whole, inner, List.getLast?_reverse] at last
    exact not_blank_of_dropWhile _ last

theorem trim_of_ends (front : ∀ c, (chars s).head? = some c → isBlank c = false)
    (back : ∀ c, (chars s).getLast? = some c → isBlank c = false) : trim s = s := by
  have keeps : ∀ l : List Rune, (∀ r, l.head? = some r → blankRune r = false) →
      l.dropWhile blankRune = l := by
    intro l first
    cases l with
    | nil => rfl
    | cons r l => rw [List.dropWhile_cons_of_neg (by simp [first r rfl])]
  have leads : (runes s).dropWhile blankRune = runes s := by
    apply keeps
    intro r first
    exact front r.char (by rw [chars, List.head?_map, first]; rfl)
  have trails : (runes s).reverse.dropWhile blankRune = (runes s).reverse := by
    apply keeps
    intro r last
    rw [List.head?_reverse] at last
    exact back r.char (by rw [chars, List.getLast?_map, last]; rfl)
  rw [trim, leads, trails, List.reverse_reverse, ofRunes_runes]

theorem trim_ascii (ascii : ∀ b ∈ s, b < 0x80)
    (front : ∀ b, s.head? = some b → isBlank (charOf b) = false)
    (back : ∀ b, s.getLast? = some b → isBlank (charOf b) = false) : trim s = s := by
  apply trim_of_ends
  · intro c first
    rw [chars_ascii ascii, List.head?_map, Option.map_eq_some_iff] at first
    obtain ⟨b, first, rfl⟩ := first
    exact front b first
  · intro c last
    rw [chars_ascii ascii, List.getLast?_map, Option.map_eq_some_iff] at last
    obtain ⟨b, last, rfl⟩ := last
    exact back b last

end Trimming

end SpanGauge.Text
