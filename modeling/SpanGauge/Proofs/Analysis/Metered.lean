import Mathlib.Data.Nat.Init
import SpanGauge.Proofs.Analysis.Exact
import SpanGauge.Proofs.Metrics.Totals
import SpanGauge.Proofs.Span.Invariant

/-! Runs with a meter. The tasks at work tell the instruments in any order, one update at a
time, each task its own updates in turn. What has been told and what is left to tell is
always what all tasks have to tell, so at the end of every run the totals of the meter are
those of the report. -/
namespace SpanGauge

structure Metered where
  pool : Pool := {}
  left : Nat → List Metrics.Update
  meter : Metrics.Meter := .running {}

namespace Metered

/-- A task tells its next update, or the pool moves on; a task finishes when it has nothing
left to tell. -/
inductive Step (n workers : Nat) : Metered → Metered → Prop
  | tell {w : Metered} {i : Nat} {u : Metrics.Update} {rest : List Metrics.Update}
      (busy : i ∈ w.pool.running) (next : w.left i = u :: rest) :
      Step n workers w ⟨w.pool, Function.update w.left i rest, w.meter.update u⟩
  | move {w : Metered} {q : Pool} (step : Pool.Step n workers w.pool q)
      (told : ∀ i ∈ q.finished, w.left i = []) :
      Step n workers w ⟨q, w.left, w.meter⟩

def Steps (n workers : Nat) : Metered → Metered → Prop := Relation.ReflTransGen (Step n workers)

def Reached (n workers : Nat) (duties : Nat → List Metrics.Update) (w : Metered) : Prop :=
  Steps n workers { left := duties } w

structure Kept (n workers : Nat) (duties : Nat → List Metrics.Update) (w : Metered) : Prop where
  pool : Pool.Reached n workers w.pool
  told : ∃ log, w.meter = .running (Metrics.told log) ∧
    (log ++ (List.range n).flatMap w.left).Perm ((List.range n).flatMap duties)
  finished : ∀ i ∈ w.pool.finished, w.left i = []

variable {n workers : Nat} {duties : Nat → List Metrics.Update} {w v : Metered}

theorem Kept.running_lt (kept : Kept n workers duties w) {i : Nat} (busy : i ∈ w.pool.running) :
    i < n := by
  have pool := Pool.kept_reached kept.pool
  have started := pool.tasks.subset (List.mem_append_left _ busy)
  exact Nat.lt_of_lt_of_le (List.mem_range.mp started) pool.bound

theorem flatMap_update_perm {l : List Nat} (distinct : l.Nodup) {left : Nat → List Metrics.Update}
    {i : Nat} (member : i ∈ l) {u : Metrics.Update} {rest : List Metrics.Update}
    (next : left i = u :: rest) :
    (u :: l.flatMap (Function.update left i rest)).Perm (l.flatMap left) := by
  induction l with
  | nil => cases member
  | cons j l ih =>
    obtain ⟨fresh, distinct⟩ := List.nodup_cons.mp distinct
    rw [List.flatMap_cons, List.flatMap_cons]
    rcases List.mem_cons.mp member with same | inside
    · subst same
      have others : l.flatMap (Function.update left i rest) = l.flatMap left := by
        apply List.flatMap_congr
        intro j inside
        have ne : j ≠ i := fun same => fresh (same ▸ inside)
        exact Function.update_of_ne ne rest left
      rw [Function.update_self, others, next]
      exact .refl _
    · have ne : j ≠ i := fun same => fresh (same ▸ inside)
      rw [Function.update_of_ne ne]
      exact List.perm_middle.symm.trans ((ih distinct inside).append_left _)

theorem kept_start (n workers : Nat) (duties : Nat → List Metrics.Update) :
    Kept n workers duties { left := duties } :=
  ⟨.refl, ⟨[], rfl, .refl _⟩, fun _ member => nomatch member⟩

theorem kept_step (step : Step n workers w v) (kept : Kept n workers duties w) :
    Kept n workers duties v := by
  cases step with
  | tell busy next =>
    rename_i i u rest
    obtain ⟨log, meter, perm⟩ := kept.told
    refine ⟨kept.pool, ⟨log ++ [u], ?_, ?_⟩, fun j done => ?_⟩
    · rw [meter, Metrics.Meter.update_told]
    · have moved := flatMap_update_perm List.nodup_range
        (List.mem_range.mpr (kept.running_lt busy)) next
      rw [List.append_assoc]
      exact (moved.append_left log).trans perm
    · have ne : j ≠ i := by
        intro same
        have empty := kept.finished j done
        rw [same, next] at empty
        cases empty
      exact (Function.update_of_ne ne rest w.left).trans (kept.finished j done)
  | move step told => exact ⟨kept.pool.tail step, kept.told, told⟩

theorem kept_reached (reached : Reached n workers duties w) : Kept n workers duties w := by
  induction reached with
  | refl => exact kept_start n workers duties
  | tail _ step ih => exact kept_step step ih

/- At the end everything has been told, in some order. -/
theorem Kept.all_told (kept : Kept n workers duties w) (ended : w.pool.Over n) :
    ∃ log, w.meter = .running (Metrics.told log) ∧ log.Perm ((List.range n).flatMap duties) := by
  obtain ⟨log, meter, perm⟩ := kept.told
  have finished := Pool.finished_perm kept.pool ended
  have nothing : (List.range n).flatMap w.left = [] :=
    List.flatMap_eq_nil_iff.mpr fun i member => kept.finished i (finished.mem_iff.mpr member)
  rw [nothing, List.append_nil] at perm
  exact ⟨log, meter, perm⟩

theorem exists_step (able : 0 < workers) (kept : Kept n workers duties w)
    (more : ¬ w.pool.Over n) : ∃ v, Step n workers w v := by
  by_cases silent : ∀ i ∈ w.pool.running, w.left i = []
  · obtain ⟨q, step⟩ := Pool.exists_step able (Pool.kept_reached kept.pool) more
    refine ⟨_, .move step ?_⟩
    cases step with
    | start => exact kept.finished
    | finish busy =>
      intro i member
      rcases List.mem_append.mp member with before | now
      · exact kept.finished i before
      · exact List.mem_singleton.mp now ▸ silent _ busy
  · push Not at silent
    obtain ⟨i, busy, some⟩ := silent
    obtain ⟨u, rest, next⟩ := List.exists_cons_of_ne_nil some
    exact ⟨_, .tell busy next⟩

/- What is left to do for the pool and to tell. -/
def due (n : Nat) (w : Metered) : Nat := w.pool.left n + ((List.range n).flatMap w.left).length

theorem due_step (step : Step n workers w v) (kept : Kept n workers duties w) :
    v.due n < w.due n := by
  cases step with
  | tell busy next =>
    have moved := flatMap_update_perm List.nodup_range
      (List.mem_range.mpr (kept.running_lt busy)) next
    have length := moved.length_eq
    rw [List.length_cons] at length
    simp only [due]
    omega
  | move step told =>
    have less := Pool.left_step step
    simp only [due]
    omega

theorem exists_over (able : 0 < workers) (kept : Kept n workers duties w) :
    ∃ v, Steps n workers w v ∧ v.pool.Over n := by
  induction h : w.due n using Nat.strong_induction_on generalizing w with
  | _ k ih =>
    by_cases ended : w.pool.Over n
    · exact ⟨w, .refl, ended⟩
    · obtain ⟨v, step⟩ := exists_step able kept ended
      obtain ⟨last, steps, ends⟩ := ih _ (h ▸ due_step step kept) (kept_step step kept) rfl
      exact ⟨last, .head step steps, ends⟩

end Metered

namespace Analysis

variable (a : Analysis)

def updates (file : Source) (nanoseconds : Int) : List Metrics.Update :=
  (a.events file nanoseconds).flatMap Metrics.Event.updates

def duties (files : List Source) (elapsed : Nat → Int) (i : Nat) : List Metrics.Update :=
  match files[i]? with
  | some file => a.updates file (elapsed i)
  | none => []

theorem sum_updates (g : Metrics.Update → Int) (file : Source) (ns : Int) :
    ((a.updates file ns).map g).sum =
      g (.files 1) + g (.functions (a.task file).length) + g (.duration ns) +
        ((a.task file).map fun f =>
          g (.lines f.span.count) + if f.exceeds then g (.violations 1 f.allowed) else 0).sum := by
  have functions (fs : List Finding) :
      (((fs.map fun f => Metrics.Event.function f.span.count f.exceeds f.allowed).flatMap
        Metrics.Event.updates).map g).sum =
      (fs.map fun f =>
        g (.lines f.span.count) + if f.exceeds then g (.violations 1 f.allowed) else 0).sum := by
    induction fs with
    | nil => rfl
    | cons f fs ih =>
      cases h : f.exceeds
      · simp [Metrics.Event.updates, h, ih]
      · simp [Metrics.Event.updates, h, ih]
        omega
  simp only [updates, events, List.flatMap_cons, List.map_append, List.sum_append, functions]
  simp [Metrics.Event.updates]
  omega

theorem sum_duties {g : Metrics.Update → Int} (whole : Source → Int)
    (one : ∀ file ns, ((a.updates file ns).map g).sum = whole file) (files : List Source)
    (elapsed : Nat → Int) :
    (((List.range files.length).flatMap (a.duties files elapsed)).map g).sum =
      (files.map whole).sum := by
  rw [List.map_flatMap, List.flatMap_def, List.sum_flatten, List.map_map]
  congr 1
  apply List.ext_getElem
  · simp
  intro i bound bound'
  have inside : i < files.length := by simpa using bound'
  simp [duties, inside, one]

theorem sum_marks (p : Finding → Bool) (fs : List Finding) :
    (fs.map fun f => if p f then (1 : Int) else 0).sum = fs.countP p := by
  induction fs with
  | nil => rfl
  | cons f fs ih =>
    rw [List.map_cons, List.sum_cons, ih, List.countP_cons]
    split
    · omega
    · omega

theorem sum_counts (p : Finding → Bool) (files : List Source) :
    (files.map fun file => ((a.task file).countP p : Int)).sum =
      (files.map a.task).flatten.countP p := by
  induction files with
  | nil => rfl
  | cons file files ih =>
    rw [List.map_cons, List.sum_cons, ih, List.map_cons, List.flatten_cons, List.countP_append]
    omega

theorem count_exceeds (fs : List Finding) :
    (fs.countP Finding.exceeds : Int) =
      count Finding.isViolation fs + count (fun f => f.exceeds && f.allowed) fs := by
  unfold count
  rw [← List.countP_eq_length_filter, ← List.countP_eq_length_filter]
  induction fs with
  | nil => rfl
  | cons f fs ih =>
    rw [List.countP_cons, List.countP_cons, List.countP_cons]
    cases h : f.exceeds <;> cases h' : f.allowed <;> simp [Finding.isViolation, h, h'] <;> omega

/- The totals of the instruments when all duties have been told, against the counts of the
report. -/
theorem stats_of_duties {files : List Source} {elapsed : Nat → Int} {log : List Metrics.Update}
    (all : log.Perm ((List.range files.length).flatMap (a.duties files elapsed))) :
    let s := (Metrics.told log).stats
    let r := a.report (files.map a.task)
    s.files = r.files ∧ s.functions = r.functions ∧ s.violations = r.violations + r.excused ∧
      s.excused = r.excused := by
  obtain ⟨hfiles, hfunctions, hviolations, hexcused⟩ := Metrics.stats_told_perm all
  refine ⟨?_, ?_, ?_, ?_⟩
  · rw [hfiles, a.sum_duties (fun _ => 1) fun file ns => by simp [sum_updates]]
    simp [report]
  · rw [hfunctions, a.sum_duties (fun file => ((a.task file).countP fun _ => true : Nat))
      fun file ns => by simp [sum_updates], sum_counts]
    simp [report]
  · rw [hviolations, a.sum_duties (fun file => ((a.task file).countP Finding.exceeds : Nat))
      fun file ns => by simp [sum_updates, ← sum_marks], sum_counts, count_exceeds]
    rfl
  · rw [hexcused, a.sum_duties
      (fun file => ((a.task file).countP fun f => f.exceeds && f.allowed : Nat))
      fun file ns => by simp [sum_updates, ← sum_marks, ite_and], sum_counts,
      List.countP_eq_length_filter]
    rfl

theorem lines_of_duties (files : List Source) (elapsed : Nat → Int) (n : Int) :
    .lines n ∈ (List.range files.length).flatMap (a.duties files elapsed) ↔
      ∃ file ∈ files, ∃ span ∈ Span.extract file.text, span.count = n := by
  have one (file : Source) (ns : Int) :
      .lines n ∈ a.updates file ns ↔ ∃ span ∈ Span.extract file.text, span.count = n := by
    have span (s : Span) : (a.judge file s).span = s := by rw [judge_eq_finding]; rfl
    simp [updates, events, task, Metrics.Event.updates, span, eq_comm (a := n)]
  rw [List.mem_flatMap]
  constructor
  · rintro ⟨i, _, told⟩
    unfold duties at told
    split at told
    · rename_i file here
      exact ⟨file, List.mem_of_getElem? here, (one file _).mp told⟩
    · cases told
  · rintro ⟨file, member, found⟩
    obtain ⟨i, bound, rfl⟩ := List.mem_iff_getElem.mp member
    refine ⟨i, List.mem_range.mpr bound, ?_⟩
    simp only [duties, List.getElem?_eq_getElem bound]
    exact (one _ _).mpr found

end Analysis

theorem Span.count_pos {text : Bytes} {s : Span} (member : s ∈ Span.extract text) :
    0 < s.count := by
  obtain ⟨r, reached, closed⟩ := Span.extract_closed member
  obtain ⟨_, order, _, count⟩ := (Reading.kept_reached reached).resolver.spans s closed
  omega

/-- Every run with a fresh meter can be brought to its end, and however the tasks take turns
in telling the instruments: at the end the totals of the meter are those of the report, and
the longest function is the longest of all, listed or not. -/
theorem metrics_agree_with_report (a : Analysis) (workers : Int) (files : List Source)
    (elapsed : Nat → Int) (w : Metered)
    (reached : Metered.Reached files.length (max 1 workers).toNat (a.duties files elapsed) w) :
    (∃ v, Metered.Steps files.length (max 1 workers).toNat w v ∧ v.pool.Over files.length) ∧
    (w.pool.Over files.length →
      ∃ r s, a.runUnless false files = .ok r ∧ r = a.runIn files w.pool.finished ∧
        w.meter.snapshot = .ok s ∧
        s.files = r.files ∧ s.functions = r.functions ∧
        s.violations = r.violations + r.excused ∧ s.excused = r.excused ∧
        (∀ file ∈ files, ∀ span ∈ Span.extract file.text, span.count ≤ s.longest) ∧
        ((∃ file ∈ files, ∃ span ∈ Span.extract file.text, span.count = s.longest) ∨
          s.longest = 0 ∧ ∀ file ∈ files, Span.extract file.text = [])) := by
  have kept := Metered.kept_reached reached
  refine ⟨Metered.exists_over (by omega) kept, fun ended => ?_⟩
  obtain ⟨log, meter, all⟩ := kept.all_told ended
  have order := Pool.finished_perm kept.pool ended
  obtain ⟨sameFiles, sameFunctions, sameViolations, sameExcused⟩ := a.stats_of_duties all
  obtain ⟨bound, attained⟩ := Metrics.longest_told log
  have told (n : Int) : .lines n ∈ log ↔
      ∃ file ∈ files, ∃ span ∈ Span.extract file.text, span.count = n :=
    all.mem_iff.trans (a.lines_of_duties files elapsed n)
  have report : a.runIn files w.pool.finished = a.report (files.map a.task) := by
    rw [Analysis.runIn, a.slots_of_perm order]
  refine ⟨_, _, rfl, (a.runIn_of_perm order).symm, by rw [meter]; rfl, ?_⟩
  rw [← a.runIn_of_perm order, report]
  refine ⟨sameFiles, sameFunctions, sameViolations, sameExcused, ?_, ?_⟩
  · intro file member span found
    exact bound _ ((told _).mpr ⟨file, member, span, found, rfl⟩)
  · rcases attained with zero | member
    · -- every function has a line, so that none is told when the longest has none
      refine .inr ⟨zero, fun file member => List.eq_nil_iff_forall_not_mem.mpr fun span found => ?_⟩
      have := bound _ ((told _).mpr ⟨file, member, span, found, rfl⟩)
      have := Span.count_pos found
      omega
    · exact .inl ((told _).mp member)

/-- A long function that is excused, one that is not, and one within the limit. -/
def meteredFiles : List Source :=
  [⟨Bytes.of "x.js", Bytes.of "x.js", Bytes.of "function f() \x7b\n\n\x7d\n"⟩,
   ⟨Bytes.of "y.js", Bytes.of "y.js", Bytes.of "g() \x7b\n\x7d\nfunction h() \x7b\n\n\n\x7d\n"⟩]

def meteredAnalysis : Analysis := ⟨2, Allow.ofEntries [Bytes.of "x.js:f"], false⟩

theorem meteredFiles_told :
    ∃ w s, Metered.Reached 2 2 (meteredAnalysis.duties meteredFiles fun _ => 0) w ∧
      w.pool.Over 2 ∧ w.meter.snapshot = .ok s ∧
      s.files = 2 ∧ s.functions = 3 ∧ s.violations = 2 ∧ s.excused = 1 ∧ s.longest = 4 := by
  have run := metrics_agree_with_report meteredAnalysis 2 meteredFiles fun _ => 0
  obtain ⟨w, steps, ended⟩ := (run _ .refl).1
  obtain ⟨r, s, ran, -, snapshot, files, functions, violations, excused, bound, attained⟩ :=
    (run w steps).2 ended
  obtain rfl : meteredAnalysis.run meteredFiles = r := Except.ok.inj ran
  refine ⟨w, s, steps, ended, snapshot, ?_, ?_, ?_, ?_, ?_⟩
  · rw [files]
    decide +kernel
  · rw [functions]
    decide +kernel
  · rw [violations]
    decide +kernel
  · rw [excused]
    decide +kernel
  · have all : ∀ file ∈ meteredFiles, ∀ span ∈ Span.extract file.text, span.count ≤ 4 := by
      decide +kernel
    have four : ∃ file ∈ meteredFiles, ∃ span ∈ Span.extract file.text, 4 ≤ span.count := by
      decide +kernel
    obtain ⟨file, member, span, found, least⟩ := four
    have least' := bound file member span found
    rcases attained with ⟨_, member', span', found', same⟩ | ⟨zero, -⟩
    · have := all _ member' span' found'
      omega
    · omega

end SpanGauge
