import Mathlib.Logic.Relation
import SpanGauge.Analysis

/-! Tasks at work. The tasks of an analysis are started in the order of their sources, as
workers become free, and finish in any order. Every such run comes to an end, and then each
task has finished exactly once. -/
namespace SpanGauge

/-- How far a run is: the number of tasks started, those of them at work, and the others in
the order in which they have finished. -/
structure Pool where
  started : Nat := 0
  running : List Nat := []
  finished : List Nat := []
  deriving DecidableEq, Repr

namespace Pool

inductive Step (n workers : Nat) : Pool → Pool → Prop
  | start {p : Pool} (left : p.started < n) (free : p.running.length < workers) :
      Step n workers p ⟨p.started + 1, p.started :: p.running, p.finished⟩
  | finish {p : Pool} {i : Nat} (busy : i ∈ p.running) :
      Step n workers p ⟨p.started, p.running.erase i, p.finished ++ [i]⟩

def Steps (n workers : Nat) : Pool → Pool → Prop := Relation.ReflTransGen (Step n workers)

def Reached (n workers : Nat) (p : Pool) : Prop := Steps n workers {} p

def Over (n : Nat) (p : Pool) : Prop := p.started = n ∧ p.running = []

/-- The tasks at work and the finished ones are those that have been started, each once. -/
structure Kept (n : Nat) (p : Pool) : Prop where
  bound : p.started ≤ n
  tasks : (p.running ++ p.finished).Perm (List.range p.started)

variable {n workers : Nat} {p q : Pool}

theorem kept_start (n : Nat) : Kept n {} := ⟨Nat.zero_le n, .refl _⟩

theorem kept_step (step : Step n workers p q) (kept : Kept n p) : Kept n q := by
  cases step with
  | start left free =>
    refine ⟨left, ?_⟩
    rw [List.range_succ, List.cons_append]
    exact (kept.tasks.cons _).trans (List.perm_append_singleton _ _).symm
  | finish busy =>
    rename_i i
    refine ⟨kept.bound, ?_⟩
    have moved : (p.running.erase i ++ (p.finished ++ [i])).Perm (p.running ++ p.finished) := by
      rw [← List.append_assoc]
      exact (List.perm_append_singleton _ _).trans
        ((List.perm_cons_erase busy).symm.append_right p.finished)
    exact moved.trans kept.tasks

theorem kept_reached (reached : Reached n workers p) : Kept n p := by
  induction reached with
  | refl => exact kept_start n
  | tail _ step ih => exact kept_step step ih

theorem finished_perm (reached : Reached n workers p) (ended : p.Over n) :
    p.finished.Perm (List.range n) := by
  have tasks := (kept_reached reached).tasks
  rw [ended.1, ended.2] at tasks
  exact tasks

/-- What is left to do: each task has to be started and to finish. -/
def left (n : Nat) (p : Pool) : Nat := 2 * (n - p.started) + p.running.length

theorem left_step (step : Step n workers p q) : q.left n < p.left n := by
  cases step with
  | start left free =>
    simp only [Pool.left, List.length_cons]
    omega
  | finish busy =>
    have some := List.length_pos_of_mem busy
    simp only [Pool.left, List.length_erase_of_mem busy]
    omega

theorem step_wellFounded (n workers : Nat) : WellFounded fun q p => Step n workers p q :=
  Subrelation.wf (fun step => left_step step) (measure (Pool.left n)).wf

theorem exists_step (able : 0 < workers) (kept : Kept n p) (more : ¬ p.Over n) :
    ∃ q, Step n workers p q := by
  cases h : p.running with
  | nil =>
    have left : p.started < n := by
      rcases Nat.lt_or_eq_of_le kept.bound with lt | same
      · exact lt
      · exact absurd ⟨same, h⟩ more
    exact ⟨_, .start left (by simpa [h] using able)⟩
  | cons i rest => exact ⟨_, .finish (i := i) (by simp [h])⟩

theorem exists_over (able : 0 < workers) (kept : Kept n p) :
    ∃ q, Steps n workers p q ∧ q.Over n := by
  induction p using (step_wellFounded n workers).induction with
  | _ p ih =>
    by_cases ended : p.Over n
    · exact ⟨p, .refl, ended⟩
    · obtain ⟨q, step⟩ := exists_step able kept ended
      obtain ⟨r, steps, ends⟩ := ih q step (kept_step step kept)
      exact ⟨r, .head step steps, ends⟩

end Pool

end SpanGauge
