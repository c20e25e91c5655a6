import Mathlib.Tactic.IntervalCases
import SpanGauge.Json.Reader
import SpanGauge.Proofs.Text.Encoding

/-! JSON strings. Each character of a valid text is written so that the reader gives its bytes
back, whichever escape it takes, and no written character ends the string. -/
namespace SpanGauge.Json
open Text

theorem hexDigit_value {d : Nat} (small : d < 16) : hexValue? (hexDigit false d) = some d := by
  interval_cases d <;> decide

theorem hexPadded_four (n : Nat) :
    hexPadded false n 4 = [hexDigit false (n / 16 / 16 / 16 % 16), hexDigit false (n / 16 / 16 % 16),
      hexDigit false (n / 16 % 16), hexDigit false (n % 16)] := rfl

theorem unit?_hexPadded {n : Nat} (bound : n < 65536) : unit? (hexPadded false n 4) = some n := by
  have digit (m : Nat) : hexValue? (hexDigit false (m % 16)) = some (m % 16) :=
    hexDigit_value (Nat.mod_lt m (by omega))
  rw [hexPadded_four, unit?]
  simp only [digit]
  congr 1
  omega

/-- The reader of strings takes `w` from `t`, in no more steps than `t` has bytes. -/
def Unescapes (t w : Bytes) : Prop :=
  ∃ steps ≤ t.length, ∀ fuel acc rest,
    stringBody? (fuel + steps) acc (t ++ rest) = stringBody? fuel (w.reverse ++ acc) rest

namespace Unescapes

variable {t u w x : Bytes}

theorem nil : Unescapes [] [] := ⟨0, le_rfl, fun _ _ _ => rfl⟩

theorem append (first : Unescapes t w) (second : Unescapes u x) :
    Unescapes (t ++ u) (w ++ x) := by
  obtain ⟨n, short, reads⟩ := first
  obtain ⟨m, short', reads'⟩ := second
  refine ⟨m + n, ?_, fun fuel acc rest => ?_⟩
  · rw [List.length_append]
    omega
  · rw [← Nat.add_assoc, List.append_assoc, reads, reads', List.reverse_append, List.append_assoc]

theorem raw {b : UInt8} (quote : b ≠ byte '"') (visible : ¬ b < 32) (plain : b ≠ byte '\\') :
    Unescapes [b] [b] := by
  refine ⟨1, le_rfl, fun fuel acc rest => ?_⟩
  rw [List.singleton_append, stringBody?.eq_def]
  simp [quote, visible, plain]

theorem bytes (raws : ∀ b ∈ t, b ≠ byte '"' ∧ ¬ b < 32 ∧ b ≠ byte '\\') : Unescapes t t := by
  induction t with
  | nil => exact nil
  | cons b t ih =>
    obtain ⟨quote, visible, plain⟩ := raws b List.mem_cons_self
    apply append (raw quote visible plain)
    exact ih fun c member => raws c (List.mem_cons_of_mem b member)

theorem letter {e c : UInt8} (read : letterEscape? e = some c) : Unescapes [byte '\\', e] [c] := by
  have other : e ≠ byte 'u' := by
    rintro rfl
    cases read
  refine ⟨1, by simp, fun fuel acc rest => ?_⟩
  rw [List.cons_append, List.singleton_append, stringBody?.eq_def]
  simp only [beq_iff_eq, other, read]
  rfl

theorem control {t : String} {e b : UInt8} {c : Char} (text : Bytes.of t = [byte '\\', e])
    (read : letterEscape? e = some b) (encoded : encode c = [b]) :
    Unescapes (Bytes.of t) (encode c) := by
  rw [text, encoded]
  exact letter read

theorem unit {n : Nat} (bound : n < 0xD800) :
    Unescapes (Bytes.of "\\u" ++ hexPadded false n 4) (encode (Char.ofNat n)) := by
  have high : isHigh n = false := by
    rw [isHigh, Bool.and_eq_false_iff, decide_eq_false_iff_not]
    omega
  have low : isLow n = false := by
    rw [isLow, Bool.and_eq_false_iff, decide_eq_false_iff_not]
    omega
  have char (after : Bytes) : escapedChar n after = (Char.ofNat n, 0) := by
    simp [escapedChar, high, low]
  have size : (hexPadded false n 4).length = 4 := rfl
  have mark : Bytes.of "\\u" = [byte '\\', byte 'u'] := by decide
  refine ⟨1, by simp [mark], fun fuel acc rest => ?_⟩
  have four : (hexPadded false n 4 ++ rest).take 4 = hexPadded false n 4 := List.take_left' size
  have behind : (hexPadded false n 4 ++ rest).drop 4 = rest := List.drop_left' size
  rw [mark, List.append_assoc, List.cons_append, List.singleton_append, stringBody?.eq_def]
  dsimp only
  rw [if_neg (by decide), if_neg (by decide), if_pos (by decide), if_pos (by decide), four,
    unit?_hexPadded (by omega)]
  dsimp only
  rw [char, Nat.add_zero, behind]

end Unescapes

theorem eq_of_toNat {c : Char} {n : Nat} (value : c.toNat = n) : c = Char.ofNat n := by
  rw [← value, Char.ofNat_toNat]

theorem raw_read {r : Rune} (whole : r.Whole) (quote : r.char ≠ '"') (plain : r.char ≠ '\\')
    (visible : 32 ≤ r.char.toNat) : Unescapes r.bytes r.bytes := by
  apply Unescapes.bytes
  intro b member
  rcases whole.size with ⟨a, ascii, rfl⟩ | ⟨-, large⟩
  · cases List.mem_singleton.mp member
    rw [charOf_toNat] at visible
    refine ⟨?_, ?_, ?_⟩
    · rintro rfl
      exact quote rfl
    · exact fun below => absurd (UInt8.lt_iff_toNat_lt.mp below) (Nat.not_lt.mpr visible)
    · rintro rfl
      exact plain rfl
  · have above := large b member
    refine ⟨?_, ?_, ?_⟩
    · rintro rfl
      exact absurd above (by decide)
    · intro below
      have : b.toNat < 32 := UInt8.lt_iff_toNat_lt.mp below
      omega
    · rintro rfl
      exact absurd above (by decide)

theorem escapedRune_read (e : Escaping) {r : Rune} (unbroken : r.broken = false) (whole : r.Whole) :
    Unescapes (escapedRune e r) r.bytes := by
  unfold escapedRune
  rw [unbroken, if_neg Bool.false_ne_true, ← whole.encoded]
  split
  · rename_i marked
    rw [Bool.or_eq_true, beq_iff_eq, beq_iff_eq] at marked
    rcases marked with char | char
    · rw [char]
      exact .letter (by decide)
    · rw [char]
      exact .letter (by decide)
  rename_i unmarked
  rw [Bool.or_eq_true, beq_iff_eq, beq_iff_eq, not_or] at unmarked
  split
  · rename_i value
    exact .control (e := byte 'b') (b := 8) (by decide) (by decide) (eq_of_toNat value ▸ by decide)
  · rename_i value
    exact .control (e := byte 'f') (b := 12) (by decide) (by decide) (eq_of_toNat value ▸ by decide)
  · rename_i value
    exact .control (e := byte 'n') (b := 10) (by decide) (by decide) (eq_of_toNat value ▸ by decide)
  · rename_i value
    exact .control (e := byte 'r') (b := 13) (by decide) (by decide) (eq_of_toNat value ▸ by decide)
  · rename_i value
    exact .control (e := byte 't') (b := 9) (by decide) (by decide) (eq_of_toNat value ▸ by decide)
  split
  · rename_i escaped
    have bound : r.char.toNat < 0xD800 := by
      simp only [Bool.or_eq_true, Bool.and_eq_true, decide_eq_true_eq, beq_iff_eq] at escaped
      rcases escaped with ((low | line) | paragraph) | ⟨-, (char | char) | char⟩
      · omega
      · omega
      · omega
      · rw [char]
        decide
      · rw [char]
        decide
      · rw [char]
        decide
    have unit := Unescapes.unit bound
    rwa [Char.ofNat_toNat] at unit
  · rename_i plain
    simp only [Bool.or_eq_true, not_or, decide_eq_true_eq] at plain
    rw [whole.encoded]
    exact raw_read whole unmarked.1 unmarked.2 (by omega)

theorem runes_read (e : Escaping) {rs : List Rune} (whole : ∀ r ∈ rs, r.broken = false ∧ r.Whole) :
    Unescapes (rs.flatMap (escapedRune e)) (rs.flatMap Rune.bytes) := by
  induction rs with
  | nil => exact .nil
  | cons r rs ih =>
    rw [List.flatMap_cons, List.flatMap_cons]
    obtain ⟨unbroken, first⟩ := whole r List.mem_cons_self
    apply Unescapes.append (escapedRune_read e unbroken first)
    exact ih fun r member => whole r (List.mem_cons_of_mem _ member)

theorem string?_stringText (e : Escaping) {s : Bytes} (valid : isValid s = true) (rest : Bytes) :
    string? (stringText e s ++ rest) = some (s, rest) := by
  have text : (runes s).flatMap Rune.bytes = s := ofRunes_runes s
  obtain ⟨steps, short, reads⟩ := runes_read e (runes_of_valid valid)
  rw [text] at reads
  have body : stringBody? (((runes s).flatMap (escapedRune e) ++ byte '"' :: rest).length + 1) []
      ((runes s).flatMap (escapedRune e) ++ byte '"' :: rest) = some (s, rest) := by
    rw [List.length_append]
    obtain ⟨left, enough⟩ := Nat.exists_eq_add_of_le short
    rw [enough, List.length_cons,
      show steps + left + (rest.length + 1) + 1 = left + rest.length + 1 + 1 + steps by omega, reads,
      stringBody?.eq_def]
    simp
  unfold stringText
  rw [List.cons_append, List.cons_append, List.append_assoc, List.singleton_append, string?]
  simp only [beq_self_eq_true, if_true, body, Option.map_some, wellFormed, ofChars_chars valid]

end SpanGauge.Json
