import Mathlib.Tactic.IntervalCases
import SpanGauge.Text.Integer

/-! Whole numbers in decimal. The last digit is the remainder by ten and the others are the
quotient, so every number of 64 bits is read back from its digits. A text that is read as a whole
number, in whatever base, has no point. -/
namespace SpanGauge

theorem decimal_nat (m : Nat) : decimal m = (Nat.toDigits 10 m).flatMap String.utf8EncodeChar := by
  change ((Nat.toDigits 10 m).utf8Encode).data.toList = _
  simp [List.utf8Encode]

theorem digitChar_byte {d : Nat} (small : d < 10) :
    String.utf8EncodeChar (Nat.digitChar d) = [UInt8.ofNat (48 + d)] := by
  interval_cases d <;> decide

theorem decimal_small {m : Nat} (small : m < 10) : decimal m = [UInt8.ofNat (48 + m)] := by
  rw [decimal_nat, Nat.toDigits_of_lt_base small, List.flatMap_singleton, digitChar_byte small]

theorem decimal_large {m : Nat} (large : 10 ≤ m) :
    decimal m = decimal (m / 10 : Nat) ++ [UInt8.ofNat (48 + m % 10)] := by
  have digit : m % 10 < 10 := Nat.mod_lt m (by omega)
  rw [decimal_nat, decimal_nat, Nat.toDigits_of_base_le (by omega) large, List.flatMap_append,
    List.flatMap_singleton, digitChar_byte digit]

theorem decimal_length_mono {m n : Nat} (le : m ≤ n) : (decimal m).length ≤ (decimal n).length := by
  induction n using Nat.strongRecOn generalizing m with
  | _ n ih =>
    by_cases small : n < 10
    · rw [decimal_small small, decimal_small (by omega)]
      exact Nat.le_refl 1
    · rw [decimal_large (m := n) (by omega), List.length_append, List.length_singleton]
      by_cases less : m < 10
      · rw [decimal_small less, List.length_singleton]
        omega
      · rw [decimal_large (by omega), List.length_append, List.length_singleton]
        exact Nat.add_le_add_right (ih (n / 10) (by omega) (Nat.div_le_div_right le)) 1

theorem decimal_neg (m : Nat) : decimal (Int.negSucc m) = byte '-' :: decimal (m + 1 : Nat) := by
  change ("-" ++ Nat.repr (m + 1)).toByteArray.data.toList = _
  rw [String.toByteArray_append, ByteArray.data_append, Array.toList_append]
  rfl

theorem isDigit_iff {b : UInt8} : Bytes.isDigit b = true ↔ 48 ≤ b.toNat ∧ b.toNat ≤ 57 := by
  simp only [Bytes.isDigit, Bool.and_eq_true, decide_eq_true_eq, UInt8.le_iff_toNat_le]
  exact Iff.rfl

theorem digit_toNat {d : Nat} (small : d < 10) : (UInt8.ofNat (48 + d)).toNat = 48 + d := by
  rw [UInt8.toNat_ofNat']
  omega

theorem isDigit_digit {d : Nat} (small : d < 10) : Bytes.isDigit (UInt8.ofNat (48 + d)) = true := by
  rw [isDigit_iff, digit_toNat small]
  omega

theorem ne_of_isDigit {b c : UInt8} (digit : Bytes.isDigit b = true)
    (other : Bytes.isDigit c = false) : b ≠ c := by
  rintro rfl
  rw [other] at digit
  cases digit

theorem digits_decimal {n : Int} (least : 0 ≤ n) : ∀ b ∈ decimal n, Bytes.isDigit b = true := by
  obtain ⟨m, rfl⟩ := Int.eq_ofNat_of_zero_le least
  clear least
  induction m using Nat.strongRecOn with
  | _ m ih =>
    intro b member
    by_cases small : m < 10
    · rw [decimal_small small, List.mem_singleton] at member
      rw [member]
      exact isDigit_digit small
    · rw [decimal_large (by omega), List.mem_append, List.mem_singleton] at member
      rcases member with front | rfl
      · exact ih (m / 10) (by omega) b front
      · exact isDigit_digit (Nat.mod_lt m (by omega))

theorem decimal_leads {m : Nat} (positive : 0 < m) :
    ∃ b rest, decimal m = b :: rest ∧ Bytes.isDigit b = true ∧ b ≠ byte '0' := by
  induction m using Nat.strongRecOn with
  | _ m ih =>
    by_cases small : m < 10
    · refine ⟨_, [], decimal_small small, isDigit_digit small, fun zero => ?_⟩
      have value := congrArg UInt8.toNat zero
      rw [digit_toNat small] at value
      change 48 + m = 48 at value
      omega
    · obtain ⟨b, rest, front, digit, nonzero⟩ := ih (m / 10) (by omega) (by omega)
      refine ⟨b, rest ++ [UInt8.ofNat (48 + m % 10)], ?_, digit, nonzero⟩
      rw [decimal_large (by omega), front, List.cons_append]

theorem decimal_cons (m : Nat) :
    ∃ b rest, decimal m = b :: rest ∧ Bytes.isDigit b = true ∧ (b = byte '0' → rest = []) := by
  rcases Nat.eq_zero_or_pos m with rfl | positive
  · exact ⟨byte '0', [], decimal_small (by omega), by decide, fun _ => rfl⟩
  · obtain ⟨b, rest, text, digit, nonzero⟩ := decimal_leads positive
    exact ⟨b, rest, text, digit, fun zero => absurd zero nonzero⟩

namespace Text

theorem digits_digit {d v : Nat} (small : d < 10) (fits : v * 10 + d ≤ maxWord) (rest : Bytes) :
    digits 10 false v (UInt8.ofNat (48 + d) :: rest) = digits 10 false (v * 10 + d) rest := by
  have value : digitValue? (UInt8.ofNat (48 + d)) = some d := by
    rw [digitValue?, if_pos (isDigit_digit small), digit_toNat small, Nat.add_sub_cancel_left]
  rw [digits, Bool.and_false, if_neg Bool.false_ne_true, value]
  dsimp only
  rw [if_neg (by omega), if_neg (by omega)]

theorem digits_read {m : Nat} (fits : m ≤ maxWord) (rest : Bytes) :
    digits 10 false 0 (decimal m ++ rest) = digits 10 false m rest := by
  induction m using Nat.strongRecOn generalizing rest with
  | _ m ih =>
    by_cases small : m < 10
    · rw [decimal_small small, List.singleton_append, digits_digit small (by omega)]
      simp
    · have whole : m / 10 * 10 + m % 10 = m := Nat.div_add_mod' m 10
      rw [decimal_large (by omega), List.append_assoc, ih (m / 10) (by omega) (by omega),
        List.singleton_append, digits_digit (Nat.mod_lt m (by omega)) (by omega), whole]

theorem digits_decimal_whole {m : Nat} (fits : m ≤ maxWord) :
    digits 10 false 0 (decimal m) = .ok m := by
  have read := digits_read fits []
  rwa [List.append_nil] at read

theorem integerIn_nat {m : Nat} (most : (m : Int) ≤ largest) :
    integerIn 10 (decimal m) = .ok m := by
  have bound : m ≤ 9223372036854775807 := Int.ofNat_le.mp most
  obtain ⟨b, rest, text, digit, -⟩ := decimal_cons m
  have minus : b ≠ byte '-' := ne_of_isDigit digit (by decide)
  have plus : b ≠ byte '+' := ne_of_isDigit digit (by decide)
  have unsigned : dropSign (decimal m) = decimal m := by
    rw [text, dropSign]
    simp [minus, plus]
  have positive : ((decimal m).head? == some (byte '-')) = false := by
    rw [text]
    simp [minus]
  rw [integerIn, unsigned, if_neg (by simp [text]), digits_decimal_whole (by rw [maxWord]; omega),
    positive]
  dsimp only
  rw [signed, if_neg Bool.false_ne_true, if_pos ⟨by rw [smallest]; omega, most⟩]

theorem integerIn_negSucc {m : Nat} (least : smallest ≤ Int.negSucc m) :
    integerIn 10 (decimal (Int.negSucc m)) = .ok (Int.negSucc m) := by
  have bound : m + 1 ≤ 9223372036854775808 := by
    rw [smallest, Int.negSucc_eq] at least
    omega
  obtain ⟨b, rest, text, -, -⟩ := decimal_cons (m + 1)
  have unsigned : dropSign (decimal (Int.negSucc m)) = decimal (m + 1 : Nat) := by
    rw [decimal_neg, dropSign]
    rfl
  have negative : ((decimal (Int.negSucc m)).head? == some (byte '-')) = true := by
    rw [decimal_neg]
    rfl
  have value : -((m + 1 : Nat) : Int) = Int.negSucc m := rfl
  rw [integerIn, unsigned, if_neg (by rw [text]; exact Bool.false_ne_true),
    digits_decimal_whole (by rw [maxWord]; omega), negative]
  dsimp only
  rw [signed, if_pos rfl, value, if_pos ⟨least, by rw [largest, Int.negSucc_eq]; omega⟩]

theorem integerIn_decimal {n : Int} (least : smallest ≤ n) (most : n ≤ largest) :
    integerIn 10 (decimal n) = .ok n := by
  cases n with
  | ofNat m => exact integerIn_nat most
  | negSucc m => exact integerIn_negSucc least

theorem digits_point {base v n : Nat} {u : Bool} {s : Bytes} (read : digits base u v s = .ok n) :
    byte '.' ∉ s := by
  induction s generalizing v with
  | nil => exact List.not_mem_nil
  | cons b s ih =>
    have point : (byte '.' == byte '_') = false := by decide
    have none : digitValue? (byte '.') = none := by decide
    rw [digits] at read
    refine List.not_mem_cons_of_ne_of_not_mem ?_ ?_
    · rintro rfl
      simp [point, none] at read
    · split at read
      · exact ih read
      · split at read
        · cases read
        · split at read
          · cases read
          · split at read
            · cases read
            · exact ih read

/- The marks of a base have no point. -/
theorem ne_point_of_mark {b m : UInt8} (mark : (lowerByte b == m) = true) (letter : byte '.' ≠ m) :
    byte '.' ≠ b := by
  rintro rfl
  have low : lowerByte (byte '.') = byte '.' := by decide
  exact letter (low ▸ beq_iff_eq.mp mark)

theorem baseMark_point {s : Bytes} (rest : byte '.' ∉ (baseMark s).2) : byte '.' ∉ s := by
  have zero : ∀ {a : UInt8}, (a == byte '0') = true → byte '.' ≠ a := fun same =>
    beq_iff_eq.mp same ▸ by decide
  unfold baseMark at rest
  split at rest
  · split at rest
    · rename_i same
      refine List.not_mem_cons_of_ne_of_not_mem (zero same) ?_
      split at rest
      · exact List.not_mem_cons_of_ne_of_not_mem (ne_point_of_mark ‹_› (by decide)) rest
      · split at rest
        · exact List.not_mem_cons_of_ne_of_not_mem (ne_point_of_mark ‹_› (by decide)) rest
        · split at rest
          · exact List.not_mem_cons_of_ne_of_not_mem (ne_point_of_mark ‹_› (by decide)) rest
          · exact rest
    · exact rest
  · split at rest
    · exact List.not_mem_cons_of_ne_of_not_mem (zero ‹_›) rest
    · exact rest
  · exact List.not_mem_nil

theorem dropSign_point {s : Bytes} (rest : byte '.' ∉ dropSign s) : byte '.' ∉ s := by
  unfold dropSign at rest
  split at rest
  · split at rest
    · rename_i sign
      refine List.not_mem_cons_of_ne_of_not_mem ?_ rest
      rintro rfl
      exact absurd sign (by decide)
    · exact rest
  · exact rest

theorem word_point {s : Bytes} {v : Nat} (read : word s = .ok v) : byte '.' ∉ s := by
  rw [word] at read
  split at read
  · cases read
  · dsimp only at read
    split at read
    · cases read
    · exact baseMark_point (digits_point ‹_›)

theorem integer_point {s : Bytes} {n : Int} (read : integer s = .ok n) : byte '.' ∉ s := by
  rw [integer] at read
  split at read
  · cases read
  · exact dropSign_point (word_point ‹_›)

end Text

end SpanGauge
