import Mathlib.Data.List.TakeWhile
import SpanGauge.Proofs.Span.Invariant
import SpanGauge.Proofs.Span.Layout
import SpanGauge.Proofs.Text.Number
import SpanGauge.Proofs.Window.Scroll

/-! The rows of a source. Read one after the other by their numbers, they all have a line; and
for a span that was found in a text they are its lines, numbered, with the signature first. -/
namespace SpanGauge

namespace Window

open Text (carriage)

def lineAt? (source : List Bytes) (n : Int) : Option Bytes :=
  if n < 1 then none else source[(n - 1).toNat]?

/-- So many rows from a number on, each line looked up by its number. A number without a line
stops the reading. -/
def readRows? (source : List Bytes) (width : Nat) : Nat → Int → Option (List Row)
  | 0, _ => some []
  | count + 1, n => do
    let line ← lineAt? source n
    let rest ← readRows? source width count (n + 1)
    some (⟨rightAligned width (decimal n), dropReturns line⟩ :: rest)

def rows? (source : List Bytes) (first last most : Int) : Option (List Row) :=
  if source.isEmpty || first < 1 then some []
  else
    let stop := lastRow source first last most
    readRows? source (decimal stop).length (stop - first + 1).toNat first

theorem lineAt?_eq_some (source : List Bytes) {n : Int} (least : 1 ≤ n)
    (most : n ≤ source.length) :
    ∃ line, lineAt? source n = some line ∧
      source.drop (n - 1).toNat = line :: source.drop n.toNat := by
  have bound : (n - 1).toNat < source.length := by omega
  have next : (n - 1).toNat + 1 = n.toNat := by omega
  refine ⟨source[(n - 1).toNat], ?_, ?_⟩
  · rw [lineAt?, if_neg (by omega), List.getElem?_eq_getElem bound]
  · rw [← next]
    exact List.drop_eq_getElem_cons bound

theorem readRows?_eq (source : List Bytes) (width count : Nat) {n : Int} (least : 1 ≤ n)
    (most : 0 < count → n + count ≤ source.length + 1) :
    readRows? source width count n =
      some (((source.drop (n - 1).toNat).take count).zipIdx.map fun (l, i) =>
        ⟨rightAligned width (decimal (n + i)), dropReturns l⟩) := by
  induction count generalizing n with
  | zero => rfl
  | succ count ih =>
    have bound := most (by omega)
    obtain ⟨line, found, rest⟩ := lineAt?_eq_some source least (by omega)
    have later := ih (n := n + 1) (by omega) (by omega)
    have place : (n + 1 - 1).toNat = n.toNat := by omega
    have number : ∀ i : Nat, n + 1 + (i : Int) = n + ((i + 1 : Nat) : Int) := by omega
    rw [readRows?, found, later, rest, place, List.take_succ_cons, List.zipIdx_cons,
      List.zipIdx_succ]
    simp [number]

section Rows

variable {source : List Bytes} {first last most : Int}

theorem lastRow_le (source : List Bytes) (first last most : Int) :
    lastRow source first last most ≤ source.length := by
  unfold lastRow
  omega

theorem rows?_eq (source : List Bytes) (first last most : Int) :
    rows? source first last most = some (rows source first last most) := by
  unfold rows? rows
  split
  · rfl
  · rename_i inside
    simp only [Bool.or_eq_true, decide_eq_true_eq, not_or] at inside
    have bound := lastRow_le source first last most
    exact readRows?_eq source _ _ (by omega) (by omega)

theorem rows_length (last most : Int) (some : source ≠ []) (least : 1 ≤ first) :
    (rows source first last most).length = (lastRow source first last most - first + 1).toNat := by
  have bound := lastRow_le source first last most
  have inside : (source.isEmpty || decide (first < 1)) = false := by
    simp [some]
    omega
  rw [rows, if_neg (by simp [inside])]
  simp only [List.length_map, List.length_zipIdx, List.length_take, List.length_drop]
  omega

theorem rows_length_le (source : List Bytes) (first last : Int) (fits : Text.smallest ≤ most) :
    ((rows source first last most).length : Int) ≤ max 0 most := by
  by_cases inside : source ≠ [] ∧ 1 ≤ first
  · have low : Text.smallest ≤ 0 := by decide
    have stop := wrap_le (n := first + most - 1) (by omega)
    rw [rows_length last most inside.1 inside.2]
    unfold lastRow
    omega
  · have none : (source.isEmpty || decide (first < 1)) = true := by
      simpa [Decidable.imp_iff_not_or] using inside
    rw [rows, if_pos none]
    exact Int.le_max_left 0 most

theorem rows_getElem? {k : Nat} {row : Row} (found : (rows source first last most)[k]? = some row) :
    ∃ line, source[(first - 1).toNat + k]? = some line ∧
      row.number = rightAligned (decimal (lastRow source first last most)).length
        (decimal (first + k)) ∧
      row.text = dropReturns line ∧ first + k ≤ lastRow source first last most := by
  unfold rows at found
  split at found
  · cases found
  rename_i inside
  rw [List.getElem?_map, Option.map_eq_some_iff] at found
  obtain ⟨⟨line, i⟩, at_k, rfl⟩ := found
  rw [List.getElem?_zipIdx, Option.map_eq_some_iff] at at_k
  obtain ⟨l, at_k, pair⟩ := at_k
  cases pair
  rw [List.getElem?_take] at at_k
  split at at_k
  · rename_i before
    rw [List.getElem?_drop] at at_k
    exact ⟨line, at_k, by simp, rfl, by omega⟩
  · cases at_k

theorem rows_aligned {row : Row} (least : 1 ≤ first) (member : row ∈ rows source first last most) :
    row.number.length = (decimal (lastRow source first last most)).length := by
  obtain ⟨k, found⟩ := List.getElem?_of_mem member
  obtain ⟨-, -, number, -, before⟩ := rows_getElem? found
  have digits := decimal_length_mono (m := (first + k).toNat)
    (n := (lastRow source first last most).toNat) (by omega)
  rw [Int.toNat_of_nonneg (by omega), Int.toNat_of_nonneg (by omega)] at digits
  rw [number, rightAligned, List.length_append, Bytes.replicate, List.length_replicate]
  omega

end Rows

def Bare (line bare : Bytes) : Prop :=
  (∃ n, line = bare ++ List.replicate n carriage) ∧ bare.getLast? ≠ some carriage

theorem dropReturns_bare (line : Bytes) : Bare line (dropReturns line) := by
  constructor
  · refine ⟨(line.reverse.takeWhile (· == carriage)).length, ?_⟩
    have returns : line.reverse.takeWhile (· == carriage) =
        List.replicate (line.reverse.takeWhile (· == carriage)).length carriage := by
      refine List.eq_replicate_iff.mpr ⟨rfl, fun b member => ?_⟩
      simpa using List.mem_takeWhile_imp member
    have split := List.takeWhile_append_dropWhile (p := (· == carriage)) (l := line.reverse)
    have whole := congrArg List.reverse split
    rw [List.reverse_append, List.reverse_reverse, returns, List.reverse_replicate] at whole
    rw [dropReturns, whole]
  · intro last
    rw [dropReturns, List.getLast?_reverse] at last
    have visible := List.head?_dropWhile_not (· == carriage) line.reverse
    rw [last] at visible
    simp at visible

theorem Bare.dropTrail {line bare : Bytes} (h : Bare line bare) :
    Bare (Bytes.dropTrail line [carriage]) bare := by
  obtain ⟨⟨n, rfl⟩, visible⟩ := h
  refine ⟨⟨n - 1, ?_⟩, visible⟩
  cases n with
  | zero =>
    rw [List.replicate_zero, List.append_nil, Bytes.dropTrail_last, if_neg (by simpa using visible)]
  | succ n =>
    rw [List.replicate_succ', ← List.append_assoc, Bytes.dropTrail_last, if_pos (by simp)]
    simp

theorem Bare.signature {line bare : Bytes} (h : Bare line bare) :
    Signature.ofLine bare = Signature.ofLine line := by
  obtain ⟨⟨n, rfl⟩, -⟩ := h
  induction n with
  | zero => rw [List.replicate_zero, List.append_nil]
  | succ n ih =>
    rw [List.replicate_succ', ← List.append_assoc, Signature.ofLine_carriage]
    exact ih

/-- The rows show a span of a text: its first lines, as many as there may be, numbered at equal
width and without the carriage returns at their ends. The first of them has its signature. -/
structure Previews (text : Bytes) (s : Span) (most : Int) (rows : List Row) : Prop where
  size : (rows.length : Int) = min most s.count
  aligned : ∃ width, ∀ row ∈ rows, row.number.length = width
  numbered : ∀ (k : Nat) row, rows[k]? = some row →
    ∃ pad, row.number = Bytes.replicate pad ' ' ++ decimal (s.first + k)
  shown : ∀ (k : Nat) row, rows[k]? = some row →
    ∃ line, (Text.lines text)[(s.first - 1).toNat + k]? = some line ∧ Bare line row.text
  signed : ∃ row sig, rows.head? = some row ∧ Signature.ofLine row.text = some sig ∧
    sig.name = s.name

structure Within (text : Bytes) (s : Span) : Prop where
  least : 1 ≤ s.first
  order : s.first ≤ s.last
  most : s.last ≤ (Bytes.splitAt Text.feed text).length
  count : s.count = s.last - s.first + 1
  signed : ∃ l sig, (Text.lines text)[(s.first - 1).toNat]? = some l ∧
    Signature.ofLine l = some sig ∧ sig.name = s.name

section Span

variable {text : Bytes} {s : Span} {most : Int}

theorem lines_getElem? {l : Bytes} {i : Nat} (nonempty : text ≠ [])
    (found : (Bytes.splitAt Text.feed text)[i]? = some l) :
    (Text.lines text)[i]? = some (Bytes.dropTrail l [carriage]) := by
  rw [Text.lines_of_ne_nil nonempty, ← Bytes.splitAt_eq_splitOn, List.getElem?_map, found]
  rfl

theorem ne_nil_of_extract (member : s ∈ Span.extract text) : text ≠ [] := by
  rintro rfl
  cases member

theorem within_of_extract (member : s ∈ Span.extract text) : Within text s := by
  obtain ⟨r, reached, closed⟩ := Span.extract_closed member
  have accounted := (Reading.kept_reached reached).accounted
  obtain ⟨least, order, most, count, l, sig, at_first, found, name⟩ := accounted.spans s closed
  have length : (Text.lines text).length = (Bytes.splitAt Text.feed text).length := by
    rw [Text.lines_of_ne_nil (ne_nil_of_extract member), List.length_map,
      Bytes.splitAt_eq_splitOn]
  have place : (s.first - 1).toNat = s.first.toNat - 1 := by omega
  have read := accounted.line_le
  exact ⟨least, order, by omega, count, l, sig, place ▸ at_first, found, name⟩

theorem Within.lastRow (within : Within text s) (least : 1 ≤ most)
    (fits : (text.length : Int) + most ≤ Text.largest) :
    lastRow (Bytes.splitAt Text.feed text) s.first s.last most =
      min s.last (s.first + most - 1) := by
  have pieces := Text.pieces_length text
  rw [Text.pieces, List.length_map, ← Bytes.splitAt_eq_splitOn] at pieces
  have feeds := List.count_le_length (a := Text.feed) (l := text)
  have low : Text.smallest ≤ 0 := by decide
  obtain ⟨start, order, bound, -, -⟩ := within
  rw [Window.lastRow, wrap_of_isWord ⟨by omega, by omega⟩]
  omega

theorem Within.previews (within : Within text s) (nonempty : text ≠ []) (least : 1 ≤ most)
    (fits : (text.length : Int) + most ≤ Text.largest) :
    Previews text s most (rows (Bytes.splitAt Text.feed text) s.first s.last most) := by
  have stop := within.lastRow least fits
  have lines : Bytes.splitAt Text.feed text ≠ [] := by
    rw [Bytes.splitAt_eq_splitOn]
    exact List.splitOn_ne_nil Text.feed text
  have length := rows_length s.last most lines within.least
  obtain ⟨start, order, bound, count, l, sig, at_first, found, name⟩ := within
  refine ⟨by omega, ⟨_, fun row => rows_aligned start⟩, fun k row at_k => ?_,
    fun k row at_k => ?_, ?_⟩
  · obtain ⟨-, -, number, -, -⟩ := rows_getElem? at_k
    exact ⟨_, number⟩
  · obtain ⟨line, at_line, -, shown, -⟩ := rows_getElem? at_k
    exact ⟨_, lines_getElem? nonempty at_line, shown ▸ (dropReturns_bare line).dropTrail⟩
  · have positive : 0 < (rows (Bytes.splitAt Text.feed text) s.first s.last most).length := by
      omega
    obtain ⟨row, rest, split⟩ := List.exists_cons_of_length_pos positive
    have at_zero : (rows (Bytes.splitAt Text.feed text) s.first s.last most)[0]? = some row := by
      rw [split]
      rfl
    obtain ⟨line, at_line, -, shown, -⟩ := rows_getElem? at_zero
    have bare := (dropReturns_bare line).dropTrail
    have same := (lines_getElem? nonempty at_line).symm.trans at_first
    rw [Option.some.inj same, ← shown] at bare
    exact ⟨row, sig, by rw [split]; rfl, bare.signature.trans found, name⟩

end Span

end Window

/-- The rows of the lines of a text preview each span that is found in it. The sizes of text
and window add up to a word, as they do for any text in memory and windows of up to 2^31 rows.
Whatever the numbers of a window are, each line that it looks up is there. -/
theorem preview_agrees :
    (∀ (text : Bytes), ∀ s ∈ Span.extract text, ∀ most : Int, 1 ≤ most →
      (text.length : Int) + most ≤ Text.largest →
      Window.Previews text s most
        (Window.rows (Bytes.splitAt Text.feed text) s.first s.last most)) ∧
    ∀ (source : List Bytes) (first last most : Int),
      Window.rows? source first last most = some (Window.rows source first last most) := by
  refine ⟨fun text s member most least fits => ?_, Window.rows?_eq⟩
  have nonempty := Window.ne_nil_of_extract member
  exact (Window.within_of_extract member).previews nonempty least fits

def returnedText : Bytes := Bytes.of "\n\n\n\n\n\n\n\nf() \x7b\r\r\n\tg()\r\n\x7d\r"

/- The window is shorter than the function, and its numbers grow by a digit. -/
theorem returnedText_previewed :
    Span.extract returnedText = [Span.ofLines (Bytes.of "f") 9 11] ∧
    Window.rows (Bytes.splitAt Text.feed returnedText) 9 11 2 =
      [⟨Bytes.of " 9", Bytes.of "f() \x7b"⟩, ⟨Bytes.of "10", Bytes.of "\tg()"⟩] ∧
    Window.Previews returnedText (Span.ofLines (Bytes.of "f") 9 11) 2
      (Window.rows (Bytes.splitAt Text.feed returnedText) 9 11 2) := by
  refine ⟨by decide +kernel, by decide +kernel, ?_⟩
  exact preview_agrees.1 returnedText (Span.ofLines (Bytes.of "f") 9 11) (by decide +kernel) 2
    (by decide) (by decide +kernel)

end SpanGauge
