import Mathlib.Algebra.BigOperators.Group.List.Basic
import Mathlib.Algebra.Ring.Int.Defs
import Mathlib.Tactic.ByContra
import SpanGauge.Metrics

/-! Totals of what instruments were told. Each total is a sum over the single updates, and the
longest function is the least bound on the lines told, so neither depends on the order of the
updates. -/
namespace SpanGauge.Metrics

theorem Counter.total_add {κ : Type} [DecidableEq κ] (c : Counter κ) (k : κ) (n : Int)
    (p : κ → Bool) : (c.add k n).total p = c.total p + if p k then n else 0 := by
  obtain ⟨points⟩ := c
  unfold Counter.add Counter.total
  induction points with
  | nil => cases h : p k <;> simp [Counter.raise, h]
  | cons q qs ih =>
    rw [Counter.raise]
    split
    · rename_i same
      subst same
      cases h : p q.1
      · simp [h]
      · simp [h]
        omega
    · cases h : p q.1
      · simpa [h] using ih
      · simp only [List.foldr_cons, h, ↓reduceIte] at ih ⊢
        omega

def told (us : List Update) : Metrics := us.foldl update {}

/- The share of one update in the totals: what they are when nothing else is told. -/
def share (u : Update) : Stats := (told [u]).stats

@[simp] theorem share_files (n : Int) : share (.files n) = { files := n } := by
  simp [share, told, update, stats, Counter.add, Counter.raise, Counter.total]

@[simp] theorem share_functions (n : Int) : share (.functions n) = { functions := n } := by
  simp [share, told, update, stats, Counter.add, Counter.raise, Counter.total]

@[simp] theorem share_duration (ns : Int) :
    share (.duration ns) = { seconds := 0 + secondsOf ns } := rfl

@[simp] theorem share_lines (n : Int) : share (.lines n) = { longest := max 0 n } := rfl

@[simp] theorem share_violations (n : Int) (excused : Bool) :
    share (.violations n excused) = { violations := n, excused := if excused then n else 0 } := by
  cases excused <;>
    simp [share, told, update, stats, Counter.add, Counter.raise, Counter.total]

theorem Meter.update_told (us : List Update) (u : Update) :
    Meter.update (.running (told us)) u = .running (told (us ++ [u])) := by
  rw [told, told, List.foldl_concat]
  rfl

section
variable (m : Metrics) (u : Update)

theorem files_update : (m.update u).stats.files = m.stats.files + (share u).files := by
  cases u <;> simp [update, stats, Counter.total_add]

theorem functions_update :
    (m.update u).stats.functions = m.stats.functions + (share u).functions := by
  cases u <;> simp [update, stats, Counter.total_add]

theorem violations_update :
    (m.update u).stats.violations = m.stats.violations + (share u).violations := by
  cases u <;> simp [update, stats, Counter.total_add]

theorem excused_update : (m.update u).stats.excused = m.stats.excused + (share u).excused := by
  cases u <;> simp [update, stats, Counter.total_add]

end

/- A number that each update raises by its share is, in the end, the sum of all shares. -/
theorem sum_of_shares (total : Metrics → Int) {part : Update → Int}
    (step : ∀ m u, total (m.update u) = total m + part u) (us : List Update) (m : Metrics) :
    total (us.foldl update m) = total m + (us.map part).sum := by
  induction us generalizing m with
  | nil => simp
  | cons u us ih =>
    rw [List.foldl_cons, ih, step, List.map_cons, List.sum_cons]
    omega

theorem longest_update (m : Metrics) (u : Update) (k : Int) :
    (m.update u).stats.longest ≤ k ↔ m.stats.longest ≤ k ∧ ∀ n, u = .lines n → n ≤ k := by
  cases u with
  | lines n =>
    cases h : m.lines.largest with
    | none =>
      simp only [update, stats, Histogram.record, h, Option.getD_some, Option.getD_none,
        Update.lines.injEq, forall_eq']
      omega
    | some top =>
      simp only [update, stats, Histogram.record, h, Option.getD_some, Update.lines.injEq,
        forall_eq']
      omega
  | files | functions | duration | violations => simp [update, stats]

theorem longest_foldl (us : List Update) (m : Metrics) (k : Int) :
    (us.foldl update m).stats.longest ≤ k ↔
      m.stats.longest ≤ k ∧ ∀ n, .lines n ∈ us → n ≤ k := by
  induction us generalizing m with
  | nil => simp
  | cons u us ih =>
    rw [List.foldl_cons]
    refine (ih _).trans ?_
    rw [longest_update]
    constructor
    · rintro ⟨⟨start, here⟩, later⟩
      refine ⟨start, fun n member => ?_⟩
      rcases List.mem_cons.mp member with same | inside
      · exact here n same.symm
      · exact later n inside
    · rintro ⟨start, all⟩
      exact ⟨⟨start, fun n same => all n (same ▸ List.mem_cons_self)⟩,
        fun n inside => all n (List.mem_cons_of_mem _ inside)⟩

/-- The longest function is the largest number of lines told, or zero. -/
theorem longest_told (us : List Update) :
    (∀ n, .lines n ∈ us → n ≤ (told us).stats.longest) ∧
      ((told us).stats.longest = 0 ∨ .lines (told us).stats.longest ∈ us) := by
  have start : ({} : Metrics).stats.longest = 0 := rfl
  have least := fun k => longest_foldl us {} k
  rw [start] at least
  obtain ⟨zero, bound⟩ := (least (told us).stats.longest).mp (Int.le_refl _)
  refine ⟨bound, ?_⟩
  by_contra other
  push Not at other
  -- otherwise one line less would be a bound too
  have below : (told us).stats.longest ≤ (told us).stats.longest - 1 := by
    refine (least _).mpr ⟨by omega, fun n member => ?_⟩
    have ne : n ≠ (told us).stats.longest := fun same => other.2 (same ▸ member)
    have := bound n member
    omega
  omega

/- The totals, the time apart, when the same is told in another order. -/
theorem stats_told_perm {us vs : List Update} (same : us.Perm vs) :
    (told us).stats.files = (vs.map fun u => (share u).files).sum ∧
      (told us).stats.functions = (vs.map fun u => (share u).functions).sum ∧
      (told us).stats.violations = (vs.map fun u => (share u).violations).sum ∧
      (told us).stats.excused = (vs.map fun u => (share u).excused).sum := by
  have total {f : Stats → Int} (step : ∀ m u, f (update m u).stats = f m.stats + f (share u))
      (zero : f (stats {}) = 0) : f (told us).stats = (vs.map fun u => f (share u)).sum := by
    rw [told, sum_of_shares (fun m => f m.stats) step, zero, Int.zero_add]
    exact (same.map _).sum_eq
  exact ⟨total files_update rfl, total functions_update rfl, total violations_update rfl,
    total excused_update rfl⟩

end SpanGauge.Metrics
