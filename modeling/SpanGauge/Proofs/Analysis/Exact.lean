import SpanGauge.Proofs.Analysis.Schedule
import SpanGauge.Proofs.Report.Order

/-! What a report says. Each task fills its own slot, so the slots hold the findings of all
sources whatever the order in which the tasks finish, and the report counts and sorts
them. -/
namespace SpanGauge

theorem Allow.raw_ne_nil {entries : List Bytes} {r : Allow.Rule}
    (member : r ∈ Allow.ofEntries entries) : r.raw ≠ [] := by
  obtain ⟨e, kept, rfl⟩ := List.mem_map.mp member
  have some : e ≠ [] := by simpa using (List.mem_filter.mp kept).2
  unfold Allow.Rule.ofText
  split
  · exact some
  · exact some

namespace Analysis

variable (a : Analysis)

theorem slots_getElem? (files : Array Source) (order : List Nat) (i : Nat) :
    (a.slots files order)[i]? =
      if i ∈ order then files[i]?.map a.task else (Array.replicate files.size [])[i]? := by
  rw [slots]
  generalize start : Array.replicate files.size [] = filled
  have size : filled.size = files.size := by rw [← start, Array.size_replicate]
  clear start
  -- the slots filled so far are those of the tasks that have finished so far
  induction order generalizing filled with
  | nil => simp
  | cons j order ih =>
    rw [List.foldl_cons]
    cases h : files[j]? with
    | none =>
      have out : files.size ≤ j := Array.getElem?_eq_none_iff.mp h
      rw [ih filled size]
      by_cases same : i = j
      · subst same
        have none : filled[i]? = none := Array.getElem?_eq_none_iff.mpr (size ▸ out)
        simp [h, none]
      · simp [same]
    | some file =>
      have inside : j < filled.size := size ▸ (Array.getElem?_eq_some_iff.mp h).1
      rw [ih _ (by simpa using size)]
      by_cases same : i = j
      · subst same
        simp [h, inside]
      · simp [same, Array.getElem?_setIfInBounds_ne (Ne.symm same)]

theorem slots_of_perm {files : List Source} {order : List Nat}
    (all : order.Perm (List.range files.length)) :
    (a.slots files.toArray order).toList = files.map a.task := by
  apply List.ext_getElem?
  intro i
  rw [Array.getElem?_toList, slots_getElem?, List.getElem?_toArray, List.getElem?_map]
  by_cases bound : i < files.length
  · simp [all.mem_iff, bound]
  · simp [all.mem_iff, bound]

theorem runIn_of_perm {files : List Source} {order : List Nat}
    (all : order.Perm (List.range files.length)) : a.runIn files order = a.run files := by
  rw [run, runIn, runIn, slots_of_perm a all, slots_of_perm a (.refl _)]

/-- All functions of the sources: source by source, and in each in the order in which they
close. -/
def functions (files : List Source) : List (Source × Span) :=
  files.flatMap fun file => (Span.extract file.text).map fun span => (file, span)

def Exceeds (f : Source × Span) : Prop := a.limit < f.2.count

def rule? (f : Source × Span) : Option Allow.Rule := a.allow.find? f.1.relative f.2.name

instance (f : Source × Span) : Decidable (a.Exceeds f) := inferInstanceAs (Decidable (_ < _))

def finding (f : Source × Span) : Finding where
  file := f.1.relative
  path := f.1.path
  span := f.2
  exceeds := a.Exceeds f
  allowed := a.Exceeds f ∧ (a.rule? f).isSome
  rule := if a.Exceeds f then ((a.rule? f).map Allow.Rule.raw).getD [] else []

theorem judge_eq_finding (file : Source) (span : Span) :
    a.judge file span = a.finding (file, span) := by
  unfold judge finding Exceeds rule?
  by_cases beyond : a.limit < span.count
  · cases h : a.allow.find? file.relative span.name with
    | none => simp [beyond]
    | some rule => simp [beyond]
  · simp [beyond]

theorem tasks_eq_findings (files : List Source) :
    (files.map a.task).flatten = (functions files).map a.finding := by
  rw [functions, List.map_flatMap, ← List.flatMap_def]
  congr 1
  funext file
  rw [List.map_map]
  exact List.map_congr_left fun span _ => a.judge_eq_finding file span

theorem run_eq (files : List Source) :
    a.run files =
      { threshold := a.limit
        files := files.length
        functions := (functions files).length
        violations := (functions files).countP fun f => a.Exceeds f ∧ a.rule? f = none
        excused := (functions files).countP fun f => a.Exceeds f ∧ (a.rule? f).isSome
        findings := some ((((functions files).filter fun f => a.showAll ∨ a.Exceeds f).map
          a.finding).mergeSort Finding.le) } := by
  have violation : (Finding.isViolation ∘ a.finding) =
      fun f => decide (a.Exceeds f ∧ a.rule? f = none) := by
    funext f
    cases h : a.rule? f <;> by_cases beyond : a.Exceeds f <;>
      simp [Finding.isViolation, finding, beyond, h]
  have excused : ((fun f => f.exceeds && f.allowed) ∘ a.finding) =
      fun f => decide (a.Exceeds f ∧ (a.rule? f).isSome) := by
    funext f
    by_cases beyond : a.Exceeds f <;> simp [finding, beyond]
  have shown : ((fun f => a.showAll || f.exceeds) ∘ a.finding) =
      fun f => decide (a.showAll ∨ a.Exceeds f) := by
    funext f
    by_cases beyond : a.Exceeds f <;> simp [finding, beyond]
  rw [run, runIn, slots_of_perm a (.refl _)]
  simp only [report, count, tasks_eq_findings, List.length_map, ← List.countP_eq_length_filter,
    List.filter_map, violation, excused, shown]

theorem run_failed_iff (files : List Source) :
    (a.run files).failed = true ↔
      ∃ file ∈ files, ∃ span ∈ Span.extract file.text,
        a.limit < span.count ∧ a.allow.find? file.relative span.name = none := by
  rw [run_eq, Report.failed, decide_eq_true_iff]
  simp only [Int.natCast_pos, List.countP_pos_iff, functions, List.mem_flatMap, List.mem_map,
    Exceeds, rule?]
  constructor
  · rintro ⟨_, ⟨file, hf, span, hs, rfl⟩, beyond⟩
    exact ⟨file, hf, span, hs, of_decide_eq_true beyond⟩
  · rintro ⟨file, hf, span, hs, beyond⟩
    exact ⟨_, ⟨file, hf, span, hs, rfl⟩, decide_eq_true beyond⟩

def listed (files : List Source) : List (Source × Span) :=
  (functions files).filter fun f => a.showAll ∨ a.Exceeds f

/-- A report tells exactly what there is to tell of the sources: the totals, and the
findings sorted with ties in the order of sources and closing braces. -/
structure Exact (sources : List Source) (r : Report) : Prop where
  threshold : r.threshold = a.limit
  files : r.files = sources.length
  functions : r.functions = (functions sources).length
  violations : r.violations =
    (Analysis.functions sources).countP fun f => a.Exceeds f ∧ a.rule? f = none
  excused : r.excused =
    (Analysis.functions sources).countP fun f => a.Exceeds f ∧ (a.rule? f).isSome
  findings : r.findings = some r.list
  listed : r.list.Perm ((a.listed sources).map a.finding)
  sorted : r.list.Pairwise fun x y => ¬ y.Before x
  stable : ∀ x : Finding, (r.list.filter fun y => x.Ties y) =
    ((a.listed sources).map a.finding).filter fun y => x.Ties y
  allowed : ∀ x ∈ r.list, x.allowed = true → x.exceeds = true
  ruled : ∀ x ∈ r.list, x.rule ≠ [] ↔ x.allowed = true
  failed : r.failed = true ↔ ∃ file ∈ sources, ∃ span ∈ Span.extract file.text,
    a.limit < span.count ∧ a.allow.find? file.relative span.name = none

theorem finding_allowed {f : Source × Span} (h : (a.finding f).allowed = true) :
    (a.finding f).exceeds = true :=
  decide_eq_true (of_decide_eq_true h).1

theorem finding_ruled (raw : ∀ r ∈ a.allow, r.raw ≠ []) (f : Source × Span) :
    (a.finding f).rule ≠ [] ↔ (a.finding f).allowed = true := by
  by_cases beyond : a.Exceeds f
  · cases h : a.rule? f with
    | none => simp [finding, beyond, h]
    | some rule =>
      have text : rule.raw ≠ [] := raw rule (List.mem_of_find?_eq_some h)
      simp [finding, beyond, h, text]
  · simp [finding, beyond]

theorem run_exact (raw : ∀ r ∈ a.allow, r.raw ≠ []) (files : List Source) :
    a.Exact files (a.run files) := by
  have totals := a.run_eq files
  have list : (a.run files).list = ((a.listed files).map a.finding).mergeSort Finding.le := by
    rw [totals]
    rfl
  obtain ⟨same, order, ties⟩ := Finding.sorted ((a.listed files).map a.finding)
  have members : ∀ x ∈ (a.run files).list, ∃ f, x = a.finding f := by
    intro x member
    rw [list, List.mem_mergeSort] at member
    obtain ⟨f, _, rfl⟩ := List.mem_map.mp member
    exact ⟨f, rfl⟩
  refine ⟨by rw [totals], by rw [totals], by rw [totals], by rw [totals], by rw [totals],
    by rw [totals]; rfl, by rw [list]; exact same, by rw [list]; exact order,
    by rw [list]; exact ties, ?_, ?_, a.run_failed_iff files⟩
  · intro x member
    obtain ⟨f, rfl⟩ := members x member
    exact a.finding_allowed
  · intro x member
    obtain ⟨f, rfl⟩ := members x member
    exact a.finding_ruled raw f

end Analysis

/-- Whatever the number of workers and the order in which the tasks finish: a run comes to
its end, and its report is the one report that tells exactly what there is to tell. -/
theorem report_exact_on_any_schedule (limit workers : Int) (entries : List Bytes)
    (showAll : Bool) (files : List Source) :
    let a : Analysis := ⟨limit, Allow.ofEntries entries, showAll⟩
    let n := files.length
    let crew := (max 1 workers).toNat
    WellFounded (fun q p => Pool.Step n crew p q) ∧
    (∀ p, Pool.Reached n crew p → ∃ q, Pool.Steps n crew p q ∧ q.Over n) ∧
    ∀ p, Pool.Reached n crew p → p.Over n →
      a.runUnless false files = .ok (a.runIn files p.finished) ∧
        a.Exact files (a.runIn files p.finished) := by
  intro a n crew
  have able : 0 < crew := by omega
  refine ⟨Pool.step_wellFounded n crew,
    fun p reached => Pool.exists_over able (Pool.kept_reached reached), ?_⟩
  intro p reached ended
  rw [a.runIn_of_perm (Pool.finished_perm reached ended)]
  refine ⟨rfl, ?_⟩
  exact a.run_exact (fun r member => Allow.raw_ne_nil member) files

/-- Two files of the same name below different roots, with functions of the same length on
the same lines. -/
def tiedFiles : List Source :=
  [⟨Bytes.of "a/x.js", Bytes.of "x.js", Bytes.of "function f() \x7b\n\x7d\n"⟩,
   ⟨Bytes.of "b/x.js", Bytes.of "x.js", Bytes.of "function g() \x7b\n\x7d\n"⟩]

def tiedAnalysis : Analysis := ⟨1, Allow.ofEntries [Bytes.of "x.js:g"], false⟩

/-- Both tasks are at work at once, and the second finishes first. -/
theorem tiedFiles_reported :
    Pool.Reached 2 2 ⟨2, [], [1, 0]⟩ ∧
    (tiedAnalysis.runIn tiedFiles [1, 0]).list.map (fun f => (f.path, f.allowed)) =
      [(Bytes.of "a/x.js", false), (Bytes.of "b/x.js", true)] ∧
    (tiedAnalysis.runIn tiedFiles [1, 0]).failed = true := by
  have reached : Pool.Reached 2 2 ⟨2, [], [1, 0]⟩ :=
    .head (.start (by decide) (by decide)) <| .head (.start (by decide) (by decide)) <|
      .head (.finish (i := 1) (by decide)) <| .head (.finish (i := 0) (by decide)) .refl
  have exact : tiedAnalysis.Exact tiedFiles (tiedAnalysis.runIn tiedFiles [1, 0]) :=
    ((report_exact_on_any_schedule 1 2 [Bytes.of "x.js:g"] false tiedFiles).2.2
      ⟨2, [], [1, 0]⟩ reached ⟨rfl, rfl⟩).2
  have tied : ∀ x ∈ (tiedAnalysis.listed tiedFiles).map tiedAnalysis.finding,
      ∀ y ∈ (tiedAnalysis.listed tiedFiles).map tiedAnalysis.finding, x.Ties y := by
    decide +kernel
  have some : ∃ x, x ∈ (tiedAnalysis.listed tiedFiles).map tiedAnalysis.finding :=
    List.exists_mem_of_ne_nil _ (by decide +kernel)
  obtain ⟨x, member⟩ := some
  have order := exact.stable x
  rw [List.filter_eq_self.mpr fun y hy => decide_eq_true (tied x member y hy),
    List.filter_eq_self.mpr fun y hy =>
      decide_eq_true (tied x member y (exact.listed.mem_iff.mp hy))] at order
  refine ⟨reached, ?_, exact.failed.mpr ?_⟩
  · rw [order]
    decide +kernel
  · decide +kernel

end SpanGauge
