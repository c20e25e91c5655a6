import SpanGauge.Text.Bytes

/-! Byte order. Comparing two texts byte by byte decides the order of lists of bytes. -/
namespace SpanGauge.Bytes

theorem cmp_cases (s t : Bytes) :
    (cmp s t = .lt ∧ s < t) ∨ (cmp s t = .eq ∧ s = t) ∨ (cmp s t = .gt ∧ t < s) := by
  induction s generalizing t with
  | nil =>
    cases t with
    | nil => exact .inr (.inl ⟨rfl, rfl⟩)
    | cons b t => exact .inl ⟨rfl, List.nil_lt_cons b t⟩
  | cons a s ih =>
    cases t with
    | nil => exact .inr (.inr ⟨rfl, List.nil_lt_cons a s⟩)
    | cons b t =>
      rcases Std.lt_trichotomy a b with lt | rfl | gt
      · exact .inl ⟨by simp [cmp, lt], List.cons_lt_cons_iff.mpr (.inl lt)⟩
      · have same : cmp (a :: s) (a :: t) = cmp s t := by simp [cmp]
        rw [same, List.cons_lt_cons_iff, List.cons_lt_cons_iff]
        simpa using ih t
      · have not_lt : ¬ a < b := Std.not_lt.mpr (Std.le_of_lt gt)
        exact .inr (.inr ⟨by simp [cmp, not_lt, gt], List.cons_lt_cons_iff.mpr (.inl gt)⟩)

theorem le_iff {s t : Bytes} : le s t = true ↔ s ≤ t := by
  rw [← Std.not_lt]
  rcases cmp_cases s t with ⟨h, lt⟩ | ⟨h, rfl⟩ | ⟨h, gt⟩
  · simp [le, h, List.lt_asymm lt]
  · simp [le, h, List.lt_irrefl]
  · simp [le, h, gt]

end SpanGauge.Bytes
