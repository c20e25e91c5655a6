import Mathlib.Data.List.Forall2
import SpanGauge.Report.Writer
import SpanGauge.Proofs.Text.Cells

/-! The report as a table. For printable ASCII bytes and cells are the same, so each column has
one width in all rows, the smaller of its limit and its widest text, and the next column begins
at one place. -/
namespace SpanGauge

open Text (feed Printed printed_decimal)

theorem printed_spaces (n : Nat) : Printed (Bytes.replicate n ' ') := fun b member =>
  List.eq_of_mem_replicate member ▸ by decide

namespace Report

def longest (ts : List Bytes) : Nat := (ts.map List.length).foldr max 0

theorem le_longest {s : Bytes} {ts : List Bytes} (member : s ∈ ts) : s.length ≤ longest ts := by
  induction ts with
  | nil => cases member
  | cons t ts ih =>
    have split : longest (t :: ts) = max t.length (longest ts) := rfl
    rcases List.mem_cons.mp member with rfl | later
    · omega
    · have rest := ih later
      omega

theorem foldl_max_longest (text : Finding → Bytes) (fs : List Finding) (n : Nat) :
    (fs.map fun f => ((text f).length : Int)).foldl max (n : Int) =
      (max n (longest (fs.map text)) : Nat) := by
  induction fs generalizing n with
  | nil => rw [List.map_nil, List.foldl_nil, longest, List.map_nil, List.map_nil, List.foldr_nil,
      Nat.max_zero]
  | cons f fs ih =>
    have split : longest ((f :: fs).map text) = max (text f).length (longest (fs.map text)) := rfl
    have first : max (n : Int) (text f).length = (max n (text f).length : Nat) := by omega
    rw [List.map_cons, List.foldl_cons, first, ih, split, Nat.max_assoc]

/-- How a text stands in a column: whole when it is within the limit, filled up with spaces, and
else its beginning with three dots. -/
structure Shown (limit width : Nat) (s cell : Bytes) : Prop where
  size : cell.length = width
  whole : s.length ≤ limit → cell = s ++ Bytes.replicate (width - s.length) ' '
  cut : limit < s.length → cell = s.take (limit - 3) ++ Bytes.of "..."

variable {s : Bytes}

/- The parts of a report that are the same in all of them. -/
def wording : List String :=
  ["...", ":", "-", " lines", "allowed by ", "1 ", " ", "s", "violation", ", ", " excused, ",
    "function", " in ", "file", " (max ", " lines)"]

theorem wording_printed : ∀ part ∈ wording, Printed (Bytes.of part) := by decide +kernel

theorem dots_printed : Printed (Bytes.of "...") := wording_printed "..." (by simp [wording])

theorem dots_length : (Bytes.of "...").length = 3 := by decide +kernel

theorem truncate_of_le {limit : Int} (fits : s.length ≤ limit) : truncate s limit = s := by
  rw [truncate, if_pos (by simp [fits])]

theorem truncate_of_lt {limit : Int} (large : 3 < limit) (long : limit < s.length) :
    truncate s limit = s.take (limit.toNat - 3) ++ Bytes.of "..." := by
  have not_short : ¬ (limit ≤ 3 || (s.length : Int) ≤ limit) = true := by
    simp only [Bool.or_eq_true, decide_eq_true_eq]
    omega
  rw [truncate, if_neg not_short]

/-- A text is cut only where the limit is below the longest text of its column, and then it has
as many bytes as the limit. -/
theorem pad_shown {limit : Int} {widest : Nat} (printed : Printed s) (large : 3 < limit)
    (among : s.length ≤ widest) :
    Shown limit.toNat (min limit.toNat widest) s (pad s (min (widest : Int) limit)) := by
  by_cases fits : (s.length : Int) ≤ limit
  · have padded : pad s (min (widest : Int) limit) =
        s ++ Bytes.replicate (min limit.toNat widest - s.length) ' ' := by
      by_cases empty : min (widest : Int) limit ≤ 0
      · have none : min limit.toNat widest - s.length = 0 := by omega
        rw [pad, if_pos empty, none, Bytes.replicate, List.replicate_zero, List.append_nil]
      · have same : (min (widest : Int) limit).toNat = min limit.toNat widest := by omega
        rw [pad, if_neg empty, truncate_of_le (by omega)]
        dsimp only
        rw [Text.cells_printed printed, same]
    refine ⟨?_, fun _ => padded, fun long => ?_⟩
    · rw [padded, List.length_append, Bytes.replicate, List.length_replicate]
      omega
    · omega
  · have limited : min (widest : Int) limit = limit := by omega
    have length : (s.take (limit.toNat - 3) ++ Bytes.of "...").length = limit.toNat := by
      rw [List.length_append, List.length_take, dots_length]
      omega
    have padded : pad s (min (widest : Int) limit) = s.take (limit.toNat - 3) ++ Bytes.of "..." := by
      rw [limited, pad, if_neg (by omega), truncate_of_lt large (by omega)]
      dsimp only
      rw [Text.cells_printed ((printed.take _).append dots_printed), length, Nat.sub_self,
        Bytes.replicate, List.replicate_zero, List.append_nil]
    refine ⟨?_, fun short => ?_, fun _ => padded⟩
    · rw [padded, length]
      omega
    · omega

theorem Shown.printed {limit width : Nat} {cell : Bytes} (shown : Shown limit width s cell)
    (printed : Printed s) : Printed cell := by
  rcases Nat.lt_or_ge limit s.length with long | short
  · rw [shown.cut long]
    exact (printed.take _).append dots_printed
  · rw [shown.whole short]
    exact printed.append (printed_spaces _)

/-- The widths of a table: the spaces between two columns, and of each column its limit and the
width that all rows give it. -/
structure Layout where
  gap : Nat
  locationLimit : Nat
  location : Nat
  nameLimit : Nat
  name : Nat
  deriving DecidableEq, Repr

def Columns.layout (c : Columns) (fs : List Finding) : Layout where
  gap := (orUsual c.gap 2).toNat
  locationLimit := (orUsual c.location 48).toNat
  location := min (orUsual c.location 48).toNat (longest (fs.map Finding.location))
  nameLimit := (orUsual c.name 32).toNat
  name := min (orUsual c.name 32).toNat (longest (fs.map fun f => f.span.name))

structure Placed (t : Layout) (f : Finding) (row : Bytes) : Prop where
  location : Shown t.locationLimit t.location f.location (row.take t.location)
  name : Shown t.nameLimit t.name f.span.name ((row.drop (t.location + t.gap)).take t.name)
  length : decimal f.span.count ++ Bytes.of " lines" <+:
    row.drop (t.location + t.gap + t.name + t.gap)

structure Tabular (f : Finding) : Prop where
  file : Printed f.file
  name : Printed f.span.name
  rule : Printed f.rule

variable {c : Columns} {fs : List Finding} {f : Finding} {r : Report}

theorem location_printed (file : Printed f.file) : Printed f.location := by
  have colon : Printed [byte ':'] := wording_printed ":" (by simp [wording])
  have dash : Printed [byte '-'] := wording_printed "-" (by simp [wording])
  exact (((file.append colon).append (printed_decimal _)).append dash).append (printed_decimal _)

theorem orUsual_large {n usual : Int} (asked : n < 1 ∨ 3 < n) (large : 3 < usual) :
    3 < orUsual n usual := by
  rw [orUsual]
  split <;> omega

theorem widest_eq (text : Finding → Bytes) (fs : List Finding) :
    (fs.map fun f => ((text f).length : Int)).foldl max 0 = (longest (fs.map text) : Nat) := by
  rw [← Int.natCast_zero, foldl_max_longest, Nat.zero_max]

theorem column_shown (text : Finding → Bytes) {n usual : Int} (printed : Printed (text f))
    (member : f ∈ fs) (large : 3 < usual) (asked : n < 1 ∨ 3 < n) :
    Shown (orUsual n usual).toNat (min (orUsual n usual).toNat (longest (fs.map text))) (text f)
      (pad (text f)
        (min ((fs.map fun x => ((text x).length : Int)).foldl max 0) (orUsual n usual))) := by
  rw [widest_eq]
  exact pad_shown printed (orUsual_large asked large) (le_longest (List.mem_map_of_mem member))

theorem location_shown (tabular : Tabular f) (member : f ∈ fs)
    (asked : c.location < 1 ∨ 3 < c.location) :
    Shown (c.layout fs).locationLimit (c.layout fs).location f.location
      (pad f.location (c.fit fs).location) :=
  column_shown Finding.location (location_printed tabular.file) member (by decide) asked

theorem name_shown (tabular : Tabular f) (member : f ∈ fs) (asked : c.name < 1 ∨ 3 < c.name) :
    Shown (c.layout fs).nameLimit (c.layout fs).name f.span.name
      (pad f.span.name (c.fit fs).name) :=
  column_shown (fun f => f.span.name) tabular.name member (by decide) asked

def line (c : Columns) (f : Finding) : Bytes :=
  let gap := Bytes.replicate c.gap.toNat ' '
  pad f.location c.location ++ gap ++ pad f.span.name c.name ++ gap ++
    (decimal f.span.count ++ Bytes.of " lines") ++
    (if f.allowed then gap ++ (Bytes.of "allowed by " ++ f.rule) else [])

variable {t : Layout}

theorem length_printed (n : Int) : Printed (decimal n ++ Bytes.of " lines") := by
  have lines : Printed (Bytes.of " lines") := wording_printed _ (by simp [wording])
  exact (printed_decimal n).append lines

theorem rule_printed (rule : Printed f.rule) : Printed (Bytes.of "allowed by " ++ f.rule) := by
  have allowed : Printed (Bytes.of "allowed by ") := wording_printed _ (by simp [wording])
  exact allowed.append rule

theorem line_printed (tabular : Tabular f) (location : Printed (pad f.location c.location))
    (name : Printed (pad f.span.name c.name)) : Printed (line c f) := by
  have gap := printed_spaces c.gap.toNat
  have tail : Printed (if f.allowed then Bytes.replicate c.gap.toNat ' ' ++
      (Bytes.of "allowed by " ++ f.rule) else []) := by
    split
    · exact gap.append (rule_printed tabular.rule)
    · exact fun b member => absurd member List.not_mem_nil
  exact ((((location.append gap).append name).append gap).append (length_printed _)).append tail

theorem row_plain (tabular : Tabular f) (location : Printed (pad f.location c.location))
    (name : Printed (pad f.span.name c.name)) (p : Style.Profile) :
    row Theme.plain p c f = line c f ++ [feed] := by
  have style : lengthStyle Theme.plain f = {} := by
    rw [lengthStyle]
    split
    · rfl
    · split <;> rfl
  have path : Theme.plain.path = {} := rfl
  have head : Theme.plain.name = {} := rfl
  have dim : Theme.plain.dim = {} := rfl
  rw [row, line, style, path, head, dim, Text.render_printed location, Text.render_printed name,
    Text.render_printed (length_printed _), Text.render_printed (rule_printed tabular.rule)]
  rfl

theorem line_placed
    (location : Shown t.locationLimit t.location f.location (pad f.location c.location))
    (name : Shown t.nameLimit t.name f.span.name (pad f.span.name c.name))
    (gap : t.gap = c.gap.toNat) : Placed t f (line c f) := by
  have spaces : (Bytes.replicate c.gap.toNat ' ').length = t.gap := by
    rw [Bytes.replicate, List.length_replicate, gap]
  rw [line]
  generalize Bytes.replicate c.gap.toNat ' ' = g at spaces ⊢
  generalize pad f.location c.location = a at location ⊢
  generalize pad f.span.name c.name = b at name ⊢
  generalize (if f.allowed then g ++ (Bytes.of "allowed by " ++ f.rule) else []) = rest
  have first : (a ++ g).length = t.location + t.gap := by
    rw [List.length_append, location.size, spaces]
  have second : (a ++ g ++ b ++ g).length = t.location + t.gap + t.name + t.gap := by
    rw [List.length_append, List.length_append, first, name.size, spaces]
  refine ⟨?_, ?_, ?_⟩
  · simp only [List.append_assoc]
    rw [List.take_left' location.size]
    exact location
  · rw [List.append_assoc, List.append_assoc, List.append_assoc, List.drop_left' first,
      List.take_left' name.size]
    exact name
  · rw [List.append_assoc _ _ rest, List.drop_left' second]
    exact List.prefix_append _ rest

theorem plural_printed (n : Int) {noun : Bytes} (printed : Printed noun) :
    Printed (plural n noun) := by
  have one : Printed (Bytes.of "1 ") := wording_printed _ (by simp [wording])
  have space : Printed [byte ' '] := wording_printed " " (by simp [wording])
  have s : Printed [byte 's'] := wording_printed "s" (by simp [wording])
  rw [plural]
  split
  · exact one.append printed
  · exact (((printed_decimal n).append space).append printed).append s

theorem summary_printed (r : Report) : Printed r.summary := by
  have violation : Printed (Bytes.of "violation") := wording_printed _ (by simp [wording])
  have comma : Printed (Bytes.of ", ") := wording_printed _ (by simp [wording])
  have excused : Printed (Bytes.of " excused, ") := wording_printed _ (by simp [wording])
  have function : Printed (Bytes.of "function") := wording_printed _ (by simp [wording])
  have place : Printed (Bytes.of " in ") := wording_printed _ (by simp [wording])
  have file : Printed (Bytes.of "file") := wording_printed _ (by simp [wording])
  have most : Printed (Bytes.of " (max ") := wording_printed _ (by simp [wording])
  have lines : Printed (Bytes.of " lines)") := wording_printed _ (by simp [wording])
  exact (((((((((plural_printed _ violation).append comma).append (printed_decimal _)).append
    excused).append (plural_printed _ function)).append place).append
    (plural_printed _ file)).append most).append (printed_decimal _)).append lines

/- The lines that a text report is made of. -/
theorem textForm_plain {p : Style.Profile}
    (rows : ∀ f ∈ r.list, row Theme.plain p (c.fit r.list) f = line (c.fit r.list) f ++ [feed]) :
    r.textForm Theme.plain p c =
      (r.list.map (line (c.fit r.list)) ++ [r.summary]).flatMap (· ++ [feed]) ++ [] := by
  rw [textForm, List.flatMap_congr rows, List.flatMap_append, List.flatMap_map,
    List.flatMap_singleton, List.append_nil, List.append_assoc]
  rfl

end Report

/-- Without colours a report is one row for each finding and then the summary. The names of all
rows begin at one place, and so do their lengths. -/
theorem text_columns_align (r : Report) (p : Style.Profile) (c : Report.Columns) (format : Bytes)
    (text : Report.Format.parse format = .ok .text) (tabular : ∀ f ∈ r.list, Report.Tabular f)
    (location : c.location < 1 ∨ 3 < c.location) (name : c.name < 1 ∨ 3 < c.name) :
    ∃ out rows, r.write format Theme.plain p c = .ok out ∧
      Bytes.splitAt feed out = rows ++ [r.summary, []] ∧
      List.Forall₂ (Report.Placed (c.layout r.list)) r.list rows := by
  have first : ∀ f ∈ r.list, _ := fun f member =>
    Report.location_shown (c := c) (tabular f member) member location
  have second : ∀ f ∈ r.list, _ := fun f member =>
    Report.name_shown (c := c) (tabular f member) member name
  have locations : ∀ f ∈ r.list, Printed _ := fun f member =>
    (first f member).printed (Report.location_printed (tabular f member).file)
  have names : ∀ f ∈ r.list, Printed _ := fun f member =>
    (second f member).printed (tabular f member).name
  have lines : ∀ l ∈ r.list.map (Report.line (c.fit r.list)) ++ [r.summary], feed ∉ l := by
    intro l member
    rcases List.mem_append.mp member with row | last
    · obtain ⟨f, among, rfl⟩ := List.mem_map.mp row
      exact (Report.line_printed (tabular f among) (locations f among)
        (names f among)).feed_not_mem
    · rw [List.mem_singleton.mp last]
      exact (Report.summary_printed r).feed_not_mem
  refine ⟨r.textForm Theme.plain p c, r.list.map (Report.line (c.fit r.list)), ?_, ?_, ?_⟩
  · rw [Report.write, text]
  · have plain := Report.textForm_plain (c := c) (p := p) fun f member =>
      Report.row_plain (tabular f member) (locations f member) (names f member) p
    rw [plain, splitAt_lines lines, List.append_assoc]
    rfl
  · rw [List.forall₂_map_right_iff, List.forall₂_same]
    exact fun f member => Report.line_placed (first f member) (second f member) rfl

def vendorReport : Report where
  threshold := 10
  files := 2
  functions := 5
  violations := 1
  excused := 1
  findings := some [
    { file := Bytes.of "src/b.js", path := Bytes.of "src/b.js", exceeds := true, allowed := false,
      span := ⟨Bytes.of "handleRequest", 1, 20, 20⟩, rule := [] },
    { file := Bytes.of "v/l.js", path := Bytes.of "v/l.js", exceeds := true, allowed := true,
      span := ⟨Bytes.of "init", 5, 9, 5⟩, rule := Bytes.of "v/*" }]

theorem vendorReport_aligns :
    (∀ f ∈ vendorReport.list, Report.Tabular f) ∧
      ∃ out rows, vendorReport.write (Bytes.of "Text") Theme.plain .ascii ⟨0, 10, -1⟩ = .ok out ∧
        Bytes.splitAt feed out = rows ++ [vendorReport.summary, []] ∧
        List.Forall₂ (Report.Placed ⟨2, 10, 10, 32, 13⟩) vendorReport.list rows := by
  have tabular : ∀ f ∈ vendorReport.list, Report.Tabular f := List.forall_mem_cons.mpr
    ⟨⟨by decide +kernel, by decide +kernel, by decide +kernel⟩, List.forall_mem_singleton.mpr
      ⟨by decide +kernel, by decide +kernel, by decide +kernel⟩⟩
  have layout : Report.Columns.layout ⟨0, 10, -1⟩ vendorReport.list = ⟨2, 10, 10, 32, 13⟩ := by
    decide +kernel
  rw [← layout]
  exact ⟨tabular, text_columns_align vendorReport .ascii ⟨0, 10, -1⟩ (Bytes.of "Text")
    (by decide +kernel) tabular (.inr (by decide)) (.inl (by decide))⟩

example : vendorReport.write (Bytes.of "Text") Theme.plain .ascii ⟨0, 10, -1⟩ = .ok (
    Bytes.of "src/b.j...  handleRequest  20 lines\n" ++
    Bytes.of "v/l.js:5-9  init           5 lines  allowed by v/*\n" ++
    Bytes.of "1 violation, 1 excused, 5 functions in 2 files (max 10 lines)\n") := by
  decide +kernel

end SpanGauge
