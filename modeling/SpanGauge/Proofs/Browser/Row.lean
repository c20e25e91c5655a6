import SpanGauge.Browser.View
import SpanGauge.Proofs.Report.Table

/-! Rows of the list. A row shows where a finding is, its name and its length, the first two in
columns. The mark of the cursor begins the selected row and no other. -/
namespace SpanGauge

def Bytes.Striking (s : Bytes) : Prop := ∃ b ∈ s.head?, b ≠ byte ' '

theorem Bytes.Striking.append {s : Bytes} (striking : s.Striking) (t : Bytes) :
    Bytes.Striking (s ++ t) := by
  obtain ⟨b, first, seen⟩ := striking
  exact ⟨b, List.mem_head?_append_of_mem_head? first, seen⟩

theorem Bytes.Striking.join {s : Bytes} (striking : s.Striking) (sep : Bytes)
    (parts : List Bytes) : Bytes.Striking (Bytes.join sep (s :: parts)) := by
  cases parts with
  | nil =>
    rw [Bytes.join, List.intersperse_singleton, List.flatten_singleton]
    exact striking
  | cons p parts =>
    rw [Bytes.join, List.intersperse_cons_cons, List.flatten_cons]
    exact striking.append _

theorem Bytes.Striking.not_isPrefix {s : Bytes} (striking : s.Striking) (t : Bytes) :
    ¬ s <+: byte ' ' :: t := by
  rintro ⟨rest, whole⟩
  obtain ⟨b, first, seen⟩ := striking.append rest
  rw [whole] at first
  exact seen (Option.some.inj first).symm

namespace Style

theorem striking_wrapped {s : Bytes} (striking : s.Striking) (codes : List Bytes) :
    (wrapped codes s).Striking := by
  have start : (Bytes.of "\x1b[").Striking := ⟨0x1b, by decide +kernel, by decide⟩
  unfold wrapped
  split
  · exact striking
  · exact (((start.append _).append _).append _).append _

theorem striking_mark (s : Style) (p : Profile) : (s.render p (Bytes.of "▶ ")).Striking := by
  have mark : (Bytes.of "▶ ").Striking := ⟨0xE2, by decide +kernel, by decide⟩
  have corner : (Bytes.of "╭").Striking := ⟨0xE2, by decide +kernel, by decide⟩
  have bare : expandTabs (Bytes.of "▶ ") = Bytes.of "▶ " := by decide +kernel
  have line : Bytes.splitAt (byte '\n') (dropReturns (Bytes.of "▶ ")) = [Bytes.of "▶ "] := by
    decide +kernel
  unfold render
  rw [bare, line]
  split
  · exact mark
  · dsimp only [List.map_cons, List.map_nil]
    rw [if_pos (by simp)]
    cases s.frame with
    | none => exact (striking_wrapped mark _).join _ _
    | some colour => exact (striking_wrapped ((corner.append _).append _) _).join _ _

end Style

namespace Browser

open Text (cells)

variable {b : Browser} {c : Report.Columns} {l : Look} {f : Finding} {row : Bytes}

def filled (width : Nat) (s : Bytes) : Bytes := s ++ Bytes.replicate (width - cells s) ' '

/-- How a text stands in a column: whole if it has no more bytes than the column has cells, and
else its beginning with three dots. -/
inductive Stands (width : Nat) (s : Bytes) : Bytes → Prop
  | whole (fits : s.length ≤ width) : Stands width s (filled width s)
  | cut (long : width < s.length) :
      Stands width s (filled width (s.take (width - 3) ++ Bytes.of "..."))

theorem stands {width : Int} (large : 3 < width) (s : Bytes) :
    Stands width.toNat s (padRight (Report.truncate s width) width) := by
  rcases Int.lt_or_le width s.length with long | fits
  · rw [Report.truncate_of_lt large long]
    exact .cut (by omega)
  · rw [Report.truncate_of_le fits]
    exact .whole (by omega)

def Look.mark (l : Look) : Bytes := l.draw l.theme.cursor (Bytes.of "▶ ")

theorem striking_lookMark (l : Look) : l.mark.Striking := l.theme.cursor.striking_mark l.profile

def lengthNote (f : Finding) : Bytes :=
  decimal f.span.count ++ (if f.allowed then Bytes.of " (allowed)" else [])

/-- How a finding is drawn in the list. Columns and gaps are as wide as asked for, but have a least
width. The selected row has the mark and the background of the selection, others have a margin. -/
inductive Draws (c : Report.Columns) (l : Look) (f : Finding) : Bool → Bytes → Prop
  | selected {location name : Bytes}
      (place : Stands (max c.location 8).toNat f.location location)
      (title : Stands (max c.name 4).toNat f.span.name name)
      {gap : Bytes}
      (apart : gap = l.draw l.theme.selected (Bytes.replicate (max c.gap 1).toNat ' ')) :
      Draws c l f true (l.mark ++
        (l.draw (l.theme.onSelection l.theme.path) location ++ gap ++
          l.draw (l.theme.onSelection l.theme.name) name ++ gap ++
          l.draw (l.theme.onSelection (Report.lengthStyle l.theme f)) (lengthNote f)))
  | other {location name : Bytes}
      (place : Stands (max c.location 8).toNat f.location location)
      (title : Stands (max c.name 4).toNat f.span.name name)
      {gap : Bytes} (apart : gap = Bytes.replicate (max c.gap 1).toNat ' ') :
      Draws c l f false (Bytes.of "  " ++
        (l.draw l.theme.path location ++ gap ++ l.draw l.theme.name name ++ gap ++
          l.draw (Report.lengthStyle l.theme f) (lengthNote f)))

theorem draws_row (columns : b.columns = widen c) (l : Look) (isSelected : Bool) (i : Item) :
    Draws c l i.finding isSelected (b.row l isSelected i) := by
  have wide : 3 < max c.location 8 := by omega
  have wide' : 3 < max c.name 4 := by omega
  have place := stands wide i.finding.location
  have title := stands wide' i.finding.span.name
  unfold Browser.row
  rw [columns]
  cases isSelected with
  | true => exact .selected place title rfl
  | false => exact .other place title rfl

/-- Only the selected row begins with the mark. -/
theorem Draws.mark_isPrefix {isSelected : Bool} (drawn : Draws c l f isSelected row) :
    l.mark <+: row ↔ isSelected = true := by
  cases drawn with
  | selected => exact iff_of_true (List.prefix_append _ _) rfl
  | other =>
    have margin : Bytes.of "  " = byte ' ' :: [byte ' '] := by decide +kernel
    rw [margin, List.cons_append]
    exact iff_of_false ((striking_lookMark l).not_isPrefix _) Bool.false_ne_true

end Browser

end SpanGauge
