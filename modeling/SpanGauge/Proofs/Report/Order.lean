import SpanGauge.Report.Basic
import SpanGauge.Proofs.Text.Order

/-! The order of findings. Three keys in turn decide which of two findings comes first,
and sorting leaves findings that agree in all three as they were. -/
namespace SpanGauge

theorem filter_mergeSort {α : Type} {le : α → α → Bool}
    (trans : ∀ a b c, le a b = true → le b c = true → le a c = true)
    (total : ∀ a b, (le a b || le b a) = true) {p : α → Bool}
    (tied : ∀ a b, p a = true → p b = true → le a b = true) (l : List α) :
    (l.mergeSort le).filter p = l.filter p := by
  have ordered : (l.filter p).Pairwise fun a b => le a b = true := by
    apply List.pairwise_of_forall_mem_list
    intro a ha b hb
    exact tied a b (List.mem_filter.mp ha).2 (List.mem_filter.mp hb).2
  have kept : (l.filter p).Sublist (l.mergeSort le) :=
    List.sublist_mergeSort trans total ordered List.filter_sublist
  have inside : (l.filter p).Sublist ((l.mergeSort le).filter p) := by
    have both := kept.filter p
    rwa [List.filter_filter, List.filter_congr (q := p) (by simp)] at both
  have length : (l.filter p).length = ((l.mergeSort le).filter p).length :=
    ((List.mergeSort_perm l le).filter p).length_eq.symm
  exact (inside.eq_of_length length).symm

theorem eq_of_sorted {α : Type} {le : α → α → Bool} (total : ∀ a b, (le a b || le b a) = true)
    {l l' : List α} (same : l.Perm l')
    (ordered : l.Pairwise fun a b => le a b = true)
    (ordered' : l'.Pairwise fun a b => le a b = true)
    (ties : ∀ x, (l.filter fun y => le x y && le y x) = l'.filter fun y => le x y && le y x) :
    l = l' := by
  induction l generalizing l' with
  | nil => exact same.nil_eq
  | cons a l ih =>
    cases l' with
    | nil => exact same.eq_nil
    | cons b l' =>
      obtain ⟨below, rest⟩ := List.pairwise_cons.mp ordered
      obtain ⟨below', rest'⟩ := List.pairwise_cons.mp ordered'
      have self : le a a = true := by simpa using total a a
      have first : a = b := by
        rcases List.mem_cons.mp (same.subset (List.mem_cons_self ..)) with equal | inside'
        · exact equal
        rcases List.mem_cons.mp (same.symm.subset (List.mem_cons_self ..)) with equal | inside
        · exact equal.symm
        -- each of the two comes before the other, so they tie, and both lists begin with the tie
        have heads := ties a
        simp only [List.filter_cons, self, below b inside, below' a inside', Bool.and_self,
          ↓reduceIte] at heads
        exact (List.cons.inj heads).1
      subst first
      congr 1
      refine ih same.cons_inv rest rest' fun x => ?_
      have tails := ties x
      rw [List.filter_cons, List.filter_cons] at tails
      split at tails
      · exact (List.cons.inj tails).2
      · exact tails

theorem filter_one_side {α : Type} {p q : α → Bool} {c : Bool}
    (side : ∀ y, q y = true → p y = c) (l : List α) :
    (l.filter p).filter q ++ (l.filter fun a => !p a).filter q = l.filter q := by
  rw [List.filter_filter, List.filter_filter]
  cases c with
  | true =>
    have none : (l.filter fun y => q y && !p y) = [] := by
      rw [List.filter_eq_nil_iff]
      intro y _ hy
      rw [Bool.and_eq_true] at hy
      simp [side y hy.1] at hy
    have all : (l.filter fun y => q y && p y) = l.filter q := by
      refine List.filter_congr fun y _ => ?_
      cases h : q y with
      | false => rfl
      | true => exact side y h
    rw [none, all, List.append_nil]
  | false =>
    have none : (l.filter fun y => q y && p y) = [] := by
      rw [List.filter_eq_nil_iff]
      intro y _ hy
      rw [Bool.and_eq_true] at hy
      simp [side y hy.1] at hy
    have all : (l.filter fun y => q y && !p y) = l.filter q := by
      refine List.filter_congr fun y _ => ?_
      cases h : q y with
      | false => rfl
      | true => simp [side y h]
    rw [none, all, List.nil_append]

/-- Where all elements with a property come before all others, sorting puts the sorted
elements with the property in front of the sorted others. -/
theorem mergeSort_eq_append {α : Type} {le : α → α → Bool}
    (trans : ∀ a b c, le a b = true → le b c = true → le a c = true)
    (total : ∀ a b, (le a b || le b a) = true) {p : α → Bool}
    (apart : ∀ a b, p a = true → p b = false → le b a = false) (l : List α) :
    l.mergeSort le = (l.filter p).mergeSort le ++ (l.filter fun a => !p a).mergeSort le := by
  apply eq_of_sorted total
  · exact (List.mergeSort_perm l le).trans ((List.filter_append_perm p l).symm.trans
      ((List.mergeSort_perm _ le).symm.append (List.mergeSort_perm _ le).symm))
  · exact List.pairwise_mergeSort trans total l
  · refine List.pairwise_append.mpr ⟨List.pairwise_mergeSort trans total _,
      List.pairwise_mergeSort trans total _, fun a ha b hb => ?_⟩
    have front : p a = true := (List.mem_filter.mp (List.mem_mergeSort.mp ha)).2
    have back : p b = false := by simpa using (List.mem_filter.mp (List.mem_mergeSort.mp hb)).2
    simpa [apart a b front back] using total a b
  · intro x
    have tied : ∀ a b, (le x a && le a x) = true → (le x b && le b x) = true → le a b = true := by
      intro a b ha hb
      rw [Bool.and_eq_true] at ha hb
      exact trans a x b ha.2 hb.1
    -- what ties with one element has the property exactly when this element has it
    have side : ∀ y, (le x y && le y x) = true → p y = p x := by
      intro y hy
      rw [Bool.and_eq_true] at hy
      cases hx : p x <;> cases h : p y
      · rfl
      · simpa [hy.1] using apart y x h hx
      · simpa [hy.2] using apart x y hx h
      · rfl
    rw [List.filter_append, filter_mergeSort trans total tied, filter_mergeSort trans total tied,
      filter_mergeSort trans total tied]
    exact (filter_one_side side l).symm

namespace Finding

/-- Longer functions come first, then those of an earlier file, then those that start on
an earlier line. -/
def Before (x y : Finding) : Prop :=
  y.span.count < x.span.count ∨
    x.span.count = y.span.count ∧ (x.file < y.file ∨ x.file = y.file ∧ x.span.first < y.span.first)

def Ties (x y : Finding) : Prop :=
  x.span.count = y.span.count ∧ x.file = y.file ∧ x.span.first = y.span.first

instance (x y : Finding) : Decidable (Ties x y) :=
  inferInstanceAs (Decidable (_ ∧ _))

theorem le_iff {x y : Finding} : x.le y = true ↔ x.Before y ∨ x.Ties y := by
  unfold le Before Ties
  by_cases count : x.span.count = y.span.count
  · rcases Bytes.cmp_cases x.file y.file with ⟨h, lt⟩ | ⟨h, same⟩ | ⟨h, gt⟩
    · simp [count, h, lt]
    · rw [h]
      simp [count, same, List.lt_irrefl, Int.le_iff_lt_or_eq]
    · simp [count, h, List.lt_asymm gt, (Std.ne_of_lt gt).symm]
  · simp [count]

theorem before_trans {x y z : Finding} (h : x.Before y) (h' : y.Before z) : x.Before z := by
  unfold Before at *
  grind

theorem not_before_self (x : Finding) : ¬ x.Before x := by
  unfold Before
  grind

theorem before_of_ties {x x' y y' : Finding} (h : x.Before y) (tx : x.Ties x') (ty : y.Ties y') :
    x'.Before y' := by
  obtain ⟨cx, fx, lx⟩ := tx
  obtain ⟨cy, fy, ly⟩ := ty
  unfold Before at *
  rw [← cx, ← fx, ← lx, ← cy, ← fy, ← ly]
  exact h

theorem before_or_ties (x y : Finding) : x.Before y ∨ x.Ties y ∨ y.Before x := by
  unfold Before Ties
  grind

theorem Ties.refl (x : Finding) : x.Ties x := ⟨rfl, rfl, rfl⟩

theorem Ties.symm {x y : Finding} (h : x.Ties y) : y.Ties x :=
  ⟨h.1.symm, h.2.1.symm, h.2.2.symm⟩

theorem Ties.trans {x y z : Finding} (h : x.Ties y) (h' : y.Ties z) : x.Ties z :=
  ⟨h.1.trans h'.1, h.2.1.trans h'.2.1, h.2.2.trans h'.2.2⟩

theorem le_trans (x y z : Finding) (h : x.le y = true) (h' : y.le z = true) : x.le z = true := by
  rw [le_iff] at *
  rcases h with before | ties
  · rcases h' with before' | ties'
    · exact .inl (before_trans before before')
    · exact .inl (before_of_ties before (.refl x) ties')
  · rcases h' with before' | ties'
    · exact .inl (before_of_ties before' ties.symm (.refl z))
    · exact .inr (ties.trans ties')

theorem le_total (x y : Finding) : (x.le y || y.le x) = true := by
  rw [Bool.or_eq_true, le_iff, le_iff]
  rcases before_or_ties x y with before | ties | after
  · exact .inl (.inl before)
  · exact .inl (.inr ties)
  · exact .inr (.inl after)

theorem not_before_of_le {x y : Finding} (h : x.le y = true) : ¬ y.Before x := by
  intro after
  rcases le_iff.mp h with before | ties
  · exact not_before_self x (before_trans before after)
  · exact not_before_self x (before_of_ties after ties.symm (.refl x))

/-- Sorted findings are the same findings, none stands behind one that it comes before, and
findings that agree keep their order. -/
theorem sorted (fs : List Finding) :
    (fs.mergeSort le).Perm fs ∧ (fs.mergeSort le).Pairwise (fun x y => ¬ y.Before x) ∧
      ∀ x : Finding, ((fs.mergeSort le).filter fun y => x.Ties y) = fs.filter fun y => x.Ties y := by
  refine ⟨List.mergeSort_perm fs le, ?_, fun x => ?_⟩
  · exact (List.pairwise_mergeSort le_trans le_total fs).imp not_before_of_le
  · apply filter_mergeSort le_trans le_total
    intro y z hy hz
    have agree : y.Ties z := Ties.trans (of_decide_eq_true hy).symm (of_decide_eq_true hz)
    exact le_iff.mpr (.inr agree)

end Finding

end SpanGauge
