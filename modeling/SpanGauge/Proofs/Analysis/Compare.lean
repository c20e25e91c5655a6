import Mathlib.Data.List.Forall2
import Mathlib.Data.List.Nodup
import SpanGauge.Proofs.Analysis.Exact
import SpanGauge.Proofs.Span.Matching

/-! Reports of two runs compared. A report does not depend on the order of the sources, a
higher limit cuts its findings at the end, and a longer allow list changes nothing but
verdicts, and those in one direction only. -/
namespace SpanGauge

namespace Allow

theorem ofEntries_sublist {entries more : List Bytes} (inserted : entries.Sublist more) :
    (ofEntries entries).Sublist (ofEntries more) :=
  ((inserted.map _).filter _).map _

theorem ofEntries_appended {entries more : List Bytes} (appended : entries <+: more) :
    ofEntries entries <+: ofEntries more :=
  ((appended.map _).filter _).map _

end Allow

namespace Analysis

variable (a : Analysis)

/-- A run by so many workers that is not called off comes to its end and returns this report,
in whatever order its tasks finish. -/
structure Yields (workers : Int) (files : List Source) (r : Report) : Prop where
  returned : a.runUnless false files = .ok r
  ends : ∃ p, Pool.Reached files.length (max 1 workers).toNat p ∧ p.Over files.length
  report : ∀ p, Pool.Reached files.length (max 1 workers).toNat p → p.Over files.length →
    a.runIn files p.finished = r

theorem run_yields (workers : Int) (files : List Source) :
    a.Yields workers files (a.run files) := by
  have able : 0 < (max 1 workers).toNat := by omega
  refine ⟨rfl, Pool.exists_over able (Pool.kept_start _), ?_⟩
  intro p reached ended
  exact a.runIn_of_perm (Pool.finished_perm reached ended)

theorem Yields.eq_run {a : Analysis} {workers : Int} {files : List Source} {r : Report}
    (yields : a.Yields workers files r) : r = a.run files :=
  (Except.ok.inj yields.returned).symm

/-- The order of findings, said of the functions they are on: no verdict plays a part. -/
def ranks (f g : Source × Span) : Bool :=
  Finding.le ⟨f.1.relative, f.1.path, f.2, false, false, []⟩
    ⟨g.1.relative, g.1.path, g.2, false, false, []⟩

theorem ranks_trans (f g h : Source × Span) (hf : ranks f g = true) (hg : ranks g h = true) :
    ranks f h = true :=
  Finding.le_trans _ _ _ hf hg

theorem ranks_total (f g : Source × Span) : (ranks f g || ranks g f) = true :=
  Finding.le_total _ _

theorem run_sorted (files : List Source) :
    a.run files =
      { threshold := a.limit
        files := files.length
        functions := (functions files).length
        violations := (functions files).countP fun f => a.Exceeds f ∧ a.rule? f = none
        excused := (functions files).countP fun f => a.Exceeds f ∧ (a.rule? f).isSome
        findings := some (((a.listed files).mergeSort ranks).map a.finding) } := by
  have sorted : ((a.listed files).map a.finding).mergeSort Finding.le =
      ((a.listed files).mergeSort ranks).map a.finding :=
    (List.map_mergeSort (r := ranks) (f := a.finding) fun _ _ _ _ => rfl).symm
  rw [run_eq, ← sorted]
  rfl

section Permuted

variable {files files' : List Source}

theorem mem_functions {f : Source × Span} :
    f ∈ functions files ↔ f.1 ∈ files ∧ f.2 ∈ Span.extract f.1.text := by
  obtain ⟨file, span⟩ := f
  simp only [functions, List.mem_flatMap, List.mem_map, Prod.mk.injEq]
  constructor
  · rintro ⟨_, hf, _, hs, rfl, rfl⟩
    exact ⟨hf, hs⟩
  · rintro ⟨hf, hs⟩
    exact ⟨file, hf, span, hs, rfl, rfl⟩

/-- Where each source has a path of its own, no two functions agree in all that they are
sorted by: two of one source begin on different lines. -/
theorem ranks_antisymm (distinct : (files.map Source.relative).Nodup) {f g : Source × Span}
    (hf : f ∈ functions files) (hg : g ∈ functions files) (fg : ranks f g = true)
    (gf : ranks g f = true) : f = g := by
  obtain ⟨source, span⟩ := mem_functions.mp hf
  obtain ⟨source', span'⟩ := mem_functions.mp hg
  rcases Finding.before_or_ties _ _ with before | ⟨_, path, line⟩ | after
  · exact absurd before (Finding.not_before_of_le gf)
  · have one : f.1 = g.1 := List.inj_on_of_nodup_map distinct source source' path
    have there : g.2 ∈ (Span.extract f.1.text).filter fun t => t.first = f.2.first :=
      List.mem_filter.mpr ⟨one ▸ span', decide_eq_true line.symm⟩
    rw [filter_first (Span.extract_starts f.1.text) span] at there
    exact Prod.ext one (List.mem_singleton.mp there).symm
  · exact absurd after (Finding.not_before_of_le fg)

theorem listed_perm (same : files.Perm files') : (a.listed files).Perm (a.listed files') :=
  (same.flatMap_right _).filter _

theorem run_perm (same : files.Perm files') (distinct : (files.map Source.relative).Nodup) :
    a.run files = a.run files' := by
  have all : (functions files).Perm (functions files') := same.flatMap_right _
  have sorted : (a.listed files).mergeSort ranks = (a.listed files').mergeSort ranks := by
    refine List.Perm.eq_of_pairwise ?_ (List.pairwise_mergeSort ranks_trans ranks_total _)
      (List.pairwise_mergeSort ranks_trans ranks_total _)
      ((List.mergeSort_perm _ _).trans
        ((a.listed_perm same).trans (List.mergeSort_perm _ _).symm))
    intro f g hf hg
    have inside : f ∈ functions files := List.mem_of_mem_filter (List.mem_mergeSort.mp hf)
    have inside' : g ∈ functions files' := List.mem_of_mem_filter (List.mem_mergeSort.mp hg)
    exact ranks_antisymm distinct inside (all.mem_iff.mpr inside')
  rw [run_sorted, run_sorted, same.length_eq, all.length_eq, all.countP_eq, all.countP_eq, sorted]

end Permuted

section Cut

variable {a} {b : Analysis}

theorem Exceeds.mono (within : a.limit ≤ b.limit) {f : Source × Span} (beyond : b.Exceeds f) :
    a.Exceeds f :=
  Int.lt_of_le_of_lt within beyond

theorem rule?_congr (allow : a.allow = b.allow) (f : Source × Span) : a.rule? f = b.rule? f := by
  rw [rule?, rule?, allow]

theorem finding_congr (allow : a.allow = b.allow) {f : Source × Span} (ha : a.Exceeds f)
    (hb : b.Exceeds f) : a.finding f = b.finding f := by
  simp [finding, ha, hb, rule?_congr allow]

theorem finding_within {f : Source × Span} (within : ¬ a.Exceeds f) :
    (a.finding f).exceeds = false ∧ (a.finding f).allowed = false ∧ (a.finding f).rule = [] := by
  simp [finding, within]

theorem ranks_apart {f g : Source × Span} (beyond : a.Exceeds f) (within : ¬ a.Exceeds g) :
    ranks g f = false := by
  have shorter : g.2.count < f.2.count := Int.lt_of_le_of_lt (Int.not_lt.mp within) beyond
  have ne : ¬ g.2.count = f.2.count := Int.ne_of_lt shorter
  have not_lt : ¬ f.2.count < g.2.count := Int.not_lt.mpr (Int.le_of_lt shorter)
  simp [ranks, Finding.le, ne, not_lt]

/-- A higher limit, or the same limit without the functions within it, cuts the findings at
the end. -/
theorem findings_cut (allow : a.allow = b.allow) (within : a.limit ≤ b.limit)
    (hides : b.showAll = false) (files : List Source) :
    ∃ shown rest, (b.run files).findings = some shown ∧
      (a.run files).findings = some (shown ++ rest) ∧
        ∀ x ∈ rest, ∃ f, ¬ b.Exceeds f ∧ x = a.finding f := by
  have kept : (a.listed files).filter (fun f => b.Exceeds f) = b.listed files := by
    rw [listed, listed, List.filter_filter]
    refine List.filter_congr fun f _ => ?_
    by_cases beyond : b.Exceeds f
    · simp [hides, beyond, beyond.mono within]
    · simp [hides, beyond]
  have cut := mergeSort_eq_append ranks_trans ranks_total (p := fun f => decide (b.Exceeds f))
    (fun f g hf hg => ranks_apart (of_decide_eq_true hf) (of_decide_eq_false hg)) (a.listed files)
  have same : ((b.listed files).mergeSort ranks).map a.finding =
      ((b.listed files).mergeSort ranks).map b.finding := by
    refine List.map_congr_left fun f member => ?_
    have beyond : b.Exceeds f := by
      simpa [hides] using (List.mem_filter.mp (List.mem_mergeSort.mp member)).2
    exact finding_congr allow (beyond.mono within) beyond
  refine ⟨((b.listed files).mergeSort ranks).map b.finding,
    (((a.listed files).filter fun f => !decide (b.Exceeds f)).mergeSort ranks).map a.finding,
    by rw [run_sorted], ?_, ?_⟩
  · rw [run_sorted, cut, List.map_append, kept, same]
  · intro x member
    obtain ⟨f, sorted, rfl⟩ := List.mem_map.mp member
    have outside := (List.mem_filter.mp (List.mem_mergeSort.mp sorted)).2
    exact ⟨f, by simpa using outside, rfl⟩

end Cut

section Totals

theorem violations_add_excused (files : List Source) :
    (a.run files).violations + (a.run files).excused =
      (functions files).countP fun f => a.Exceeds f := by
  have split : ∀ fs : List (Source × Span),
      (fs.countP fun f => a.Exceeds f ∧ a.rule? f = none) +
        (fs.countP fun f => a.Exceeds f ∧ (a.rule? f).isSome) = fs.countP fun f => a.Exceeds f := by
    intro fs
    induction fs with
    | nil => rfl
    | cons f fs ih =>
      rw [List.countP_cons, List.countP_cons, List.countP_cons, ← ih]
      by_cases beyond : a.Exceeds f <;> cases rule : a.rule? f <;> simp [beyond] <;> omega
  rw [run_sorted, ← split]
  rfl

variable {a} {b : Analysis}

theorem violations_le (also : ∀ f, b.Exceeds f → b.rule? f = none → a.Exceeds f ∧ a.rule? f = none)
    (files : List Source) : (b.run files).violations ≤ (a.run files).violations := by
  rw [run_sorted, run_sorted, Int.ofNat_le]
  refine List.countP_mono_left fun f _ h => ?_
  obtain ⟨beyond, none⟩ := of_decide_eq_true h
  exact decide_eq_true (also f beyond none)

theorem excused_le
    (also : ∀ f, b.Exceeds f → (b.rule? f).isSome → a.Exceeds f ∧ (a.rule? f).isSome)
    (files : List Source) : (b.run files).excused ≤ (a.run files).excused := by
  rw [run_sorted, run_sorted, Int.ofNat_le]
  refine List.countP_mono_left fun f _ h => ?_
  obtain ⟨beyond, some⟩ := of_decide_eq_true h
  exact decide_eq_true (also f beyond some)

/-- The findings of two runs that differ in their allow lists are on the same functions, one
by one. -/
theorem findings_paired (limit : a.limit = b.limit) (showAll : a.showAll = b.showAll)
    (files : List Source) :
    ∃ fs : List (Source × Span), (a.run files).findings = some (fs.map a.finding) ∧
      (b.run files).findings = some (fs.map b.finding) := by
  have same : a.listed files = b.listed files := by
    refine List.filter_congr fun f _ => decide_eq_decide.mpr ?_
    rw [showAll, Exceeds, Exceeds, limit]
  exact ⟨(a.listed files).mergeSort ranks, by rw [run_sorted], by rw [run_sorted, same]⟩

end Totals

/-- The order of the sources plays no part in a report, if each has a path of its own. -/
theorem report_free_of_order {files files' : List Source} (same : files.Perm files')
    (distinct : (files.map Source.relative).Nodup) (limit workers : Int) (entries : List Bytes)
    (showAll : Bool) :
    let a : Analysis := ⟨limit, Allow.ofEntries entries, showAll⟩
    ∃ r, a.Yields workers files r ∧ a.Yields workers files' r := by
  intro a
  refine ⟨a.run files, a.run_yields workers files, ?_⟩
  rw [a.run_perm same distinct]
  exact a.run_yields workers files'

/-- A function of three lines, and two of two lines that begin on the same line of their
sources. -/
def evenFiles : List Source :=
  [⟨Bytes.of "a.js", Bytes.of "a.js", Bytes.of "function f() \x7b\n  x()\n\x7d\n"⟩,
   ⟨Bytes.of "b.js", Bytes.of "b.js", Bytes.of "function g() \x7b\n\x7d\n"⟩,
   ⟨Bytes.of "c.js", Bytes.of "c.js", Bytes.of "function h() \x7b\n\x7d\n"⟩]

theorem evenFiles_reversed :
    evenFiles.reverse.Perm evenFiles ∧ (evenFiles.reverse.map Source.relative).Nodup ∧
    ∃ r, (⟨1, Allow.ofEntries [], false⟩ : Analysis).Yields 4 evenFiles.reverse r ∧
      (⟨1, Allow.ofEntries [], false⟩ : Analysis).Yields 4 evenFiles r ∧
      r.violations = 3 ∧
      r.list.map Finding.file = [Bytes.of "a.js", Bytes.of "b.js", Bytes.of "c.js"] := by
  have same : evenFiles.reverse.Perm evenFiles := List.reverse_perm evenFiles
  have distinct : (evenFiles.reverse.map Source.relative).Nodup := by decide +kernel
  obtain ⟨r, reversed, straight⟩ := report_free_of_order same distinct 1 4 [] false
  refine ⟨same, distinct, r, reversed, straight, ?_, ?_⟩
  · rw [straight.eq_run]
    decide +kernel
  · rw [straight.eq_run, run_sorted, List.mergeSort_of_pairwise (by decide +kernel)]
    decide +kernel

/-- A higher limit cuts the findings at the end, and so does leaving out the functions within
the limit. -/
theorem report_cut_by_limit (limit limit' workers : Int) (higher : limit ≤ limit')
    (entries : List Bytes) (files : List Source) :
    let judging (limit : Int) (showAll : Bool) : Analysis :=
      ⟨limit, Allow.ofEntries entries, showAll⟩
    (∃ low high shown rest,
      (judging limit false).Yields workers files low ∧
      (judging limit' false).Yields workers files high ∧
      high.findings = some shown ∧ low.findings = some (shown ++ rest) ∧
      high.violations ≤ low.violations ∧ high.excused ≤ low.excused ∧
      high.functions = low.functions ∧ (high.failed = true → low.failed = true)) ∧
    ∃ cut all shown rest,
      (judging limit false).Yields workers files cut ∧
      (judging limit true).Yields workers files all ∧
      cut.findings = some shown ∧ all.findings = some (shown ++ rest) ∧
      cut.files = all.files ∧ cut.functions = all.functions ∧
      cut.violations = all.violations ∧ cut.excused = all.excused ∧
      ∀ x ∈ rest, x.exceeds = false ∧ x.allowed = false ∧ x.rule = [] := by
  intro judging
  constructor
  · let a := judging limit false
    let b := judging limit' false
    obtain ⟨shown, rest, high, low, _⟩ := findings_cut (a := a) (b := b) rfl higher rfl files
    have fewer := violations_le (a := a) (b := b)
      (fun f beyond none => ⟨beyond.mono higher, none⟩) files
    have excused := excused_le (a := a) (b := b)
      (fun f beyond some => ⟨beyond.mono higher, some⟩) files
    refine ⟨a.run files, b.run files, shown, rest, a.run_yields workers files,
      b.run_yields workers files, high, low, fewer, excused, ?_, ?_⟩
    · rw [run_sorted, run_sorted]
    · intro fails
      exact decide_eq_true (Int.lt_of_lt_of_le (of_decide_eq_true fails) fewer)
  · let a := judging limit true
    let b := judging limit false
    obtain ⟨shown, rest, cut, all, within⟩ :=
      findings_cut (a := a) (b := b) rfl (Int.le_refl limit) rfl files
    refine ⟨b.run files, a.run files, shown, rest, b.run_yields workers files,
      a.run_yields workers files, cut, all, rfl, rfl, ?_, ?_, ?_⟩
    · rw [run_sorted, run_sorted]
      rfl
    · rw [run_sorted, run_sorted]
      rfl
    · intro x member
      obtain ⟨f, inside, rfl⟩ := within x member
      exact finding_within (a := a) inside

theorem evenFiles_cut :
    (1 : Int) ≤ 2 ∧ ∃ low high shown rest,
      (⟨1, Allow.ofEntries [], false⟩ : Analysis).Yields 4 evenFiles low ∧
      (⟨2, Allow.ofEntries [], false⟩ : Analysis).Yields 4 evenFiles high ∧
      high.findings = some shown ∧ low.findings = some (shown ++ rest) ∧
      high.violations = 1 ∧ low.violations = 3 := by
  obtain ⟨⟨low, high, shown, rest, hl, hh, top, whole, _⟩, _⟩ :=
    report_cut_by_limit 1 2 4 (by decide) [] evenFiles
  refine ⟨by decide, low, high, shown, rest, hl, hh, top, whole, ?_, ?_⟩
  · rw [hh.eq_run]
    decide +kernel
  · rw [hl.eq_run]
    decide +kernel

/-- More entries in an allow list excuse more and change nothing else. -/
theorem allow_only_excuses {entries more : List Bytes} (inserted : entries.Sublist more)
    (limit workers : Int) (showAll : Bool) (files : List Source) :
    let judging (entries : List Bytes) : Analysis := ⟨limit, Allow.ofEntries entries, showAll⟩
    ∃ strict lenient before after,
      (judging entries).Yields workers files strict ∧
      (judging more).Yields workers files lenient ∧
      strict.findings = some before ∧ lenient.findings = some after ∧
      lenient.violations ≤ strict.violations ∧
      lenient.violations + lenient.excused = strict.violations + strict.excused ∧
      lenient.functions = strict.functions ∧
      List.Forall₂ (fun x y : Finding => y.file = x.file ∧ y.span = x.span ∧
        y.exceeds = x.exceeds ∧ (x.allowed = true → y.allowed = true) ∧
        (entries <+: more → x.allowed = true → y.rule = x.rule)) before after := by
  intro judging
  let a := judging entries
  let b := judging more
  have covers : ∀ f, (a.rule? f).isSome = true → (b.rule? f).isSome = true := fun f =>
    (Allow.ofEntries_sublist inserted).find?_isSome
  have uncovered : ∀ f, b.rule? f = none → a.rule? f = none := by
    intro f none
    by_contra some
    have covered := covers f (Option.isSome_iff_ne_none.mpr some)
    rw [none] at covered
    cases covered
  have fewer := violations_le (a := a) (b := b)
    (fun f beyond none => ⟨beyond, uncovered f none⟩) files
  obtain ⟨fs, strict, lenient⟩ := findings_paired (a := a) (b := b) rfl rfl files
  refine ⟨a.run files, b.run files, _, _, a.run_yields workers files, b.run_yields workers files,
    strict, lenient, fewer, ?_, ?_, ?_⟩
  · rw [violations_add_excused, violations_add_excused]
    rfl
  · rw [run_sorted, run_sorted]
  · rw [List.forall₂_map_left_iff, List.forall₂_map_right_iff, List.forall₂_same]
    intro f _
    refine ⟨rfl, rfl, rfl, ?_, ?_⟩
    · intro allowed
      obtain ⟨beyond, covered⟩ := of_decide_eq_true allowed
      exact decide_eq_true ⟨beyond, covers f covered⟩
    · intro appended allowed
      obtain ⟨_, covered⟩ := of_decide_eq_true allowed
      obtain ⟨r, first⟩ := Option.isSome_iff_exists.mp covered
      have still : b.rule? f = some r := (Allow.ofEntries_appended appended).find?_eq_some first
      show (b.finding f).rule = (a.finding f).rule
      simp only [finding, first, still]
      rfl

theorem evenFiles_excused :
    [Bytes.of "b.js:g"].Sublist [Bytes.of "[", Bytes.of " *.js ", Bytes.of "b.js:g"] ∧
    ∃ strict lenient,
      (⟨1, Allow.ofEntries [Bytes.of "b.js:g"], true⟩ : Analysis).Yields 4 evenFiles strict ∧
      (⟨1, Allow.ofEntries [Bytes.of "[", Bytes.of " *.js ", Bytes.of "b.js:g"], true⟩ :
        Analysis).Yields 4 evenFiles lenient ∧
      strict.violations = 2 ∧ strict.excused = 1 ∧ lenient.violations = 0 ∧
      lenient.violations + lenient.excused = strict.violations + strict.excused := by
  have inserted : [Bytes.of "b.js:g"].Sublist
      [Bytes.of "[", Bytes.of " *.js ", Bytes.of "b.js:g"] :=
    .cons _ (.cons _ (.refl _))
  obtain ⟨strict, lenient, _, _, hs, hl, _, _, _, total, _⟩ :=
    allow_only_excuses inserted 1 4 true evenFiles
  refine ⟨inserted, strict, lenient, hs, hl, ?_, ?_, ?_, total⟩
  · rw [hs.eq_run]
    decide +kernel
  · rw [hs.eq_run]
    decide +kernel
  · rw [hl.eq_run]
    decide +kernel

end Analysis

end SpanGauge
