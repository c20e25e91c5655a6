import SpanGauge.Proofs.Json.RoundTrip
import SpanGauge.Proofs.Window.Scroll
import SpanGauge.Report.Writer

/-! Reports are decoded from their JSON text, field by field and by the names of the fields. A
report whose texts are valid is given back, so no two of them have one text. -/
namespace SpanGauge

namespace Json
open Text

def members : Json → Option (List (Bytes × Json))
  | .object ms => some ms
  | .null => some []
  | _ => none

def named (name : String) (ms : List (Bytes × Json)) : Json :=
  ((ms.reverse.find? fun m => m.1 == Bytes.of name).map Prod.snd).getD .null

-- A missing member is left at its zero, as one that is null is.

def toText? : Json → Option Bytes
  | .text s => some s
  | .null => some []
  | _ => none

def toBool? : Json → Option Bool
  | .bool b => some b
  | .null => some false
  | _ => none

def toInt? : Json → Option Int
  | .number literal => (integerIn 10 literal).toOption
  | .null => some 0
  | _ => none

theorem toInt?_int {n : Int} (word : IsWord n) : (Json.int n).toInt? = some n := by
  rw [int, toInt?, integerIn_decimal word.1 word.2]
  rfl

end Json

open Json

namespace Span

def ofJson? (j : Json) : Option Span := do
  let ms ← j.members
  let name ← (named "name" ms).toText?
  let first ← (named "start_line" ms).toInt?
  let last ← (named "end_line" ms).toInt?
  let count ← (named "line_count" ms).toInt?
  return ⟨name, first, last, count⟩

@[mk_iff legible_iff]
structure Legible (s : Span) : Prop where
  name : Text.isValid s.name = true
  first : IsWord s.first
  last : IsWord s.last
  count : IsWord s.count

instance (s : Span) : Decidable s.Legible := decidable_of_iff _ (legible_iff s).symm

theorem ofJson?_toJson {s : Span} (legible : s.Legible) : ofJson? s.toJson = some s := by
  change ((Json.int s.first).toInt?.bind fun first => (Json.int s.last).toInt?.bind fun last =>
    (Json.int s.count).toInt?.bind fun count => some (⟨s.name, first, last, count⟩ : Span)) = _
  rw [toInt?_int legible.first, toInt?_int legible.last, toInt?_int legible.count]
  rfl

theorem Legible.json {s : Span} (legible : s.Legible) : s.toJson.Legible := by
  apply Json.Legible.object
  · simp only [List.forall_mem_cons]
    decide +kernel
  · simp only [List.forall_mem_cons]
    exact ⟨.text legible.name, .int _, .int _, .int _, fun _ => nofun⟩

end Span

namespace Finding

def ofJson? (j : Json) : Option Finding := do
  let ms ← j.members
  let file ← (named "file" ms).toText?
  let path ← (named "path" ms).toText?
  let span ← Span.ofJson? (named "span" ms)
  let exceeds ← (named "exceeds" ms).toBool?
  let allowed ← (named "allowed" ms).toBool?
  let rule ← (named "allow_rule" ms).toText?
  return ⟨file, path, span, exceeds, allowed, rule⟩

@[mk_iff legible_iff]
structure Legible (f : Finding) : Prop where
  file : Text.isValid f.file = true
  path : Text.isValid f.path = true
  span : f.span.Legible
  rule : Text.isValid f.rule = true

instance (f : Finding) : Decidable f.Legible := decidable_of_iff _ (legible_iff f).symm

theorem ofJson?_toJson {f : Finding} (legible : f.Legible) : ofJson? f.toJson = some f := by
  have inner := Span.ofJson?_toJson legible.span
  obtain ⟨file, path, span, exceeds, allowed, rule⟩ := f
  cases rule with
  | nil =>
    change ((Span.ofJson? span.toJson).bind fun s =>
      some (⟨file, path, s, exceeds, allowed, []⟩ : Finding)) = _
    rw [inner]
    rfl
  | cons b rule =>
    change ((Span.ofJson? span.toJson).bind fun s =>
      some (⟨file, path, s, exceeds, allowed, b :: rule⟩ : Finding)) = _
    rw [inner]
    rfl

theorem Legible.json {f : Finding} (legible : f.Legible) : f.toJson.Legible := by
  apply Json.Legible.object
  · have key : Text.isValid (Bytes.of "allow_rule") = true := by decide +kernel
    simp only [List.forall_mem_append, List.forall_mem_cons]
    refine ⟨by decide +kernel, fun m rule => ?_⟩
    split at rule
    · cases rule
    · rw [List.mem_singleton.mp rule]
      exact key
  · simp only [List.forall_mem_append, List.forall_mem_cons]
    refine ⟨⟨.text legible.file, .text legible.path, legible.span.json, .bool _, .bool _,
      fun _ => nofun⟩, fun m rule => ?_⟩
    split at rule
    · cases rule
    · rw [List.mem_singleton.mp rule]
      exact .text legible.rule

end Finding

namespace Report

def findings? : Json → Option (Option (List Finding))
  | .null => some none
  | .list js => (js.mapM Finding.ofJson?).map some
  | _ => none

def ofJson? (j : Json) : Option Report := do
  let ms ← j.members
  let threshold ← (named "threshold" ms).toInt?
  let files ← (named "files" ms).toInt?
  let functions ← (named "functions" ms).toInt?
  let violations ← (named "violations" ms).toInt?
  let excused ← (named "excused" ms).toInt?
  let findings ← findings? (named "findings" ms)
  return ⟨threshold, files, functions, violations, excused, findings⟩

def read? (text : Bytes) : Option Report := (Json.read? text).bind ofJson?

@[mk_iff legible_iff]
structure Legible (r : Report) : Prop where
  threshold : IsWord r.threshold
  files : IsWord r.files
  functions : IsWord r.functions
  violations : IsWord r.violations
  excused : IsWord r.excused
  findings : ∀ f ∈ r.list, f.Legible

instance (r : Report) : Decidable r.Legible := decidable_of_iff _ (legible_iff r).symm

theorem findings_back {fs : List Finding} (legible : ∀ f ∈ fs, f.Legible) :
    (fs.map Finding.toJson).mapM Finding.ofJson? = some fs := by
  induction fs with
  | nil => rfl
  | cons f fs ih =>
    obtain ⟨first, others⟩ := List.forall_mem_cons.mp legible
    rw [List.map_cons, List.mapM_cons, Finding.ofJson?_toJson first, ih others]
    rfl

/-- The findings as a value: no list is not the same as an empty one. -/
def listed : Option (List Finding) → Json
  | none => .null
  | some fs => .list (fs.map Finding.toJson)

theorem findings?_listed {found : Option (List Finding)}
    (legible : ∀ f ∈ found.getD [], f.Legible) : findings? (listed found) = some found := by
  cases found with
  | none => rfl
  | some fs =>
    have back : (fs.map Finding.toJson).mapM Finding.ofJson? = some fs := findings_back legible
    rw [listed, findings?, back]
    rfl

theorem listed_legible {found : Option (List Finding)} (legible : ∀ f ∈ found.getD [], f.Legible) :
    (listed found).Legible := by
  cases found with
  | none => exact .null
  | some fs =>
    apply Json.Legible.list
    intro j member
    obtain ⟨f, inside, rfl⟩ := List.mem_map.mp member
    exact (legible f inside).json

theorem ofJson?_toJson {r : Report} (legible : r.Legible) : ofJson? r.toJson = some r := by
  change ((Json.int r.threshold).toInt?.bind fun threshold => (Json.int r.files).toInt?.bind
    fun files => (Json.int r.functions).toInt?.bind fun functions => (Json.int r.violations).toInt?.bind
    fun violations => (Json.int r.excused).toInt?.bind fun excused =>
    (findings? (listed r.findings)).bind fun findings =>
    some (⟨threshold, files, functions, violations, excused, findings⟩ : Report)) = _
  rw [toInt?_int legible.threshold, toInt?_int legible.files, toInt?_int legible.functions,
    toInt?_int legible.violations, toInt?_int legible.excused, findings?_listed legible.findings]
  rfl

theorem Legible.json {r : Report} (legible : r.Legible) : r.toJson.Legible := by
  apply Json.Legible.object
  · simp only [List.forall_mem_cons]
    decide +kernel
  · simp only [List.forall_mem_cons]
    exact ⟨.int _, .int _, .int _, .int _, .int _, listed_legible legible.findings, fun _ => nofun⟩

theorem read?_pretty {r : Report} (legible : r.Legible) : read? r.toJson.pretty = some r := by
  rw [read?, Json.read?_pretty legible.json, Option.bind_some, ofJson?_toJson legible]

theorem write_json {format : Bytes} (json : Format.parse format = .ok .json) (r : Report)
    (t : Theme) (p : Style.Profile) (c : Columns) :
    r.write format t p c = .ok r.toJson.pretty := by
  rw [write, json]

end Report

/-- The JSON text of a legible report is decoded to the report, and is no other report's. -/
theorem report_read_back (r : Report) (legible : r.Legible) (format : Bytes)
    (json : Report.Format.parse format = .ok .json) (t : Theme) (p : Style.Profile)
    (c : Report.Columns) :
    ∃ text, r.write format t p c = .ok text ∧ Report.read? text = some r ∧
      ∀ s : Report, s.Legible → ∀ format' t' p' c', Report.Format.parse format' = .ok .json →
        s.write format' t' p' c' = .ok text → s = r := by
  refine ⟨r.toJson.pretty, Report.write_json json r t p c, Report.read?_pretty legible, ?_⟩
  intro s legible' format' t' p' c' json' same
  rw [Report.write_json json' s t' p' c', Except.ok.injEq] at same
  have read := Report.read?_pretty legible'
  rw [same, Report.read?_pretty legible, Option.some.injEq] at read
  exact read.symm

/-- Every class of escape, characters of all sizes, a replacement character that was meant, and
numbers at both ends of their range. -/
def escapedReport : Report where
  threshold := 9223372036854775807
  files := -9223372036854775808
  functions := 0
  violations := -10
  excused := 7
  findings := some [
    ⟨Bytes.of "a\"\\/\n\t\r\x00\x08\x0c\x1f\x7f", Bytes.of "<b>&\u2028\u2029",
      ⟨Bytes.of "é€😀\ufffd", 1, 9, 9⟩, true, true, Bytes.of "*:\"x\""⟩,
    ⟨[], Bytes.of "\\u0041", ⟨[], 0, -1, 0⟩, false, false, []⟩]

theorem escapedReport_read_back :
    escapedReport.Legible ∧ Report.Format.parse (Bytes.of " Json\n") = .ok .json ∧
    ∃ text, escapedReport.write (Bytes.of " Json\n") {} .ascii {} = .ok text ∧
      Report.read? text = some escapedReport ∧
      ∀ s : Report, s.Legible → ∀ format t p c, Report.Format.parse format = .ok .json →
        s.write format t p c = .ok text → s = escapedReport := by
  have legible : escapedReport.Legible := by decide +kernel
  have json : Report.Format.parse (Bytes.of " Json\n") = .ok .json := by decide +kernel
  exact ⟨legible, json, report_read_back escapedReport legible _ json {} .ascii {}⟩

end SpanGauge
