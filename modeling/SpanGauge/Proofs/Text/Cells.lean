import SpanGauge.Style
import SpanGauge.Proofs.Text.Number
import SpanGauge.Proofs.Text.Lines
import SpanGauge.Proofs.Text.Utf8

/-! Cells of printable ASCII. Each byte of such a text takes one cell, so what is filled up to
a number of cells has as many bytes, and drawing it without a style leaves it as it is. -/
namespace SpanGauge.Text

def IsPrint (b : UInt8) : Prop := 32 ≤ b.toNat ∧ b.toNat ≤ 126

instance (b : UInt8) : Decidable (IsPrint b) := inferInstanceAs (Decidable (_ ∧ _))

def Printed (s : Bytes) : Prop := ∀ b ∈ s, IsPrint b

instance (s : Bytes) : Decidable (Printed s) := inferInstanceAs (Decidable (∀ _ ∈ s, _))

variable {b : UInt8} {s t : Bytes}

theorem IsPrint.ascii (print : IsPrint b) : b < 0x80 := by
  have most := print.2
  rw [UInt8.lt_iff_toNat_lt]
  exact Nat.lt_of_le_of_lt most (by decide)

theorem Printed.ascii (printed : Printed s) : ∀ b ∈ s, b < 0x80 := fun b member =>
  (printed b member).ascii

theorem Printed.append (front : Printed s) (back : Printed t) : Printed (s ++ t) := fun b member =>
  (List.mem_append.mp member).elim (front b) (back b)

theorem Printed.take (printed : Printed s) (n : Nat) : Printed (s.take n) := fun b member =>
  printed b (List.mem_of_mem_take member)

theorem Printed.feed_not_mem (printed : Printed s) : feed ∉ s := fun member =>
  absurd (printed feed member) (by decide)

theorem printed_decimal (n : Int) : Printed (decimal n) := by
  have digits : ∀ m : Nat, Printed (decimal m) := by
    intro m b member
    have bounds := isDigit_iff.mp (digits_decimal (Int.natCast_nonneg m) b member)
    exact ⟨Nat.le_trans (by decide) bounds.1, Nat.le_trans bounds.2 (by decide)⟩
  cases n with
  | ofNat m => exact digits m
  | negSucc m =>
    rw [decimal_neg]
    exact List.forall_mem_cons.mpr ⟨by decide, digits (m + 1)⟩

/- A printable byte neither begins an escape sequence nor a longer character. -/
theorem step_print (print : IsPrint b) : Escape.step .ground b = .ground := by
  have every : ∀ n < 256, IsPrint (UInt8.ofNat n) →
      Escape.step .ground (UInt8.ofNat n) = .ground := by decide +kernel
  have here := every b.toNat b.toNat_lt
  rw [UInt8.ofNat_toNat] at here
  exact here print

theorem cellsFrom_print (print : IsPrint b) (w : Nat) (rs : List Rune) :
    cellsFrom .ground w (⟨charOf b, [b]⟩ :: rs) = cellsFrom .ground (w + 1) rs := by
  have low : ¬ 0xC2 ≤ b := by
    rw [UInt8.le_iff_toNat_le]
    exact Nat.not_le.mpr (Nat.lt_of_le_of_lt print.2 (by decide))
  have shown : 0x20 ≤ b ∧ b ≤ 0x7E := by
    rw [UInt8.le_iff_toNat_le, UInt8.le_iff_toNat_le]
    exact print
  rw [cellsFrom]
  simp [low, step_print print, shown]

theorem cellsFrom_printed (printed : Printed s) (w : Nat) :
    cellsFrom .ground w (runes s) = w + s.length := by
  rw [runes_ascii printed.ascii]
  induction s generalizing w with
  | nil => rw [List.map_nil, cellsFrom, List.length_nil, Nat.add_zero]
  | cons b s ih =>
    rw [List.map_cons, cellsFrom_print (printed b List.mem_cons_self),
      ih fun c member => printed c (List.mem_cons_of_mem b member), List.length_cons]
    omega

theorem cells_printed (printed : Printed s) : cells s = s.length := by
  have line : lineCells s = s.length := by
    rw [lineCells, cellsFrom_printed printed, Nat.zero_add]
  have one : Bytes.splitAt (byte '\n') s = [s] := by
    rw [Bytes.splitAt_eq_splitOn]
    exact List.splitOn_eq_singleton printed.feed_not_mem
  rw [cells, one, List.map_singleton, line, List.foldl_cons, List.foldl_nil, Nat.zero_max]

theorem expandTabs_printed (printed : Printed s) : Style.expandTabs s = s := by
  induction s with
  | nil => rfl
  | cons b s ih =>
    have other : (b == 9) = false := by
      have least := (printed b List.mem_cons_self).1
      refine beq_eq_false_iff_ne.mpr fun same => ?_
      rw [same] at least
      exact absurd least (by decide)
    have rest := ih fun c member => printed c (List.mem_cons_of_mem b member)
    rw [Style.expandTabs] at rest ⊢
    rw [List.flatMap_cons, rest, other]
    rfl

theorem render_printed (printed : Printed s) (p : Style.Profile) :
    Style.render {} p s = s := by
  have plain : Style.isPlain {} = true := by decide
  rw [Style.render, if_pos plain, expandTabs_printed printed]

end SpanGauge.Text
