import SpanGauge.Span.Resolver

/-! What one event can do to the resolver, and what every event keeps: no signature is
lost or doubled, the pending ones stay in order with the waiting ones latest, and the
closed spans carry true line numbers. -/
namespace SpanGauge

def Pending.head (c : Pending) : Bytes × Int := (c.name, c.first)
def Span.head (s : Span) : Bytes × Int := (s.name, s.first)

namespace Resolver

def stack (r : Resolver) : List Pending := r.pending.reverse

def heads (r : Resolver) : List (Bytes × Int) :=
  r.pending.map Pending.head ++ r.closed.map Span.head

theorem take_none {depth : Int} {cs : List Pending} (missed : take depth cs = none) :
    ∀ c ∈ cs, c.depth ≠ some depth := by
  induction cs with
  | nil => simp
  | cons c cs ih =>
    unfold take at missed
    split at missed
    · contradiction
    · rename_i away
      split at missed
      · contradiction
      · rename_i tail
        intro d hd
        rcases List.mem_cons.mp hd with hd | hd
        · exact hd ▸ away
        · exact ih tail d hd

theorem take_some {depth : Int} {cs rest : List Pending} {c : Pending}
    (found : take depth cs = some (c, rest)) :
    ∃ above below, cs = above ++ c :: below ∧ rest = above ++ below ∧
      c.depth = some depth ∧ ∀ a ∈ above, a.depth ≠ some depth := by
  induction cs generalizing rest with
  | nil => simp [take] at found
  | cons d cs ih =>
    unfold take at found
    split at found
    · rename_i here
      cases Option.some.inj found
      exact ⟨[], cs, rfl, rfl, here, by simp⟩
    · rename_i away
      split at found
      · rename_i q qs tail
        cases Option.some.inj found
        obtain ⟨above, below, hcs, hqs, hc, ha⟩ := ih tail
        refine ⟨d :: above, below, by rw [hcs]; rfl, by rw [hqs]; rfl, hc, ?_⟩
        intro a hmem
        rcases List.mem_cons.mp hmem with hmem | hmem
        · exact hmem ▸ away
        · exact ha a hmem
      · contradiction

/-- All that a closing brace can do. The signature it ends is the latest one pinned to
the depth, and it is taken out of the middle. -/
theorem closing_cases (r : Resolver) (line : Nat) :
    (r.closing line = { r with depth := r.depth - 1 } ∧
      ∀ c ∈ r.pending, c.depth ≠ some r.depth) ∨
    ∃ above c below, r.pending = above ++ c :: below ∧ c.depth = some r.depth ∧
      (∀ a ∈ above, a.depth ≠ some r.depth) ∧
      r.closing line =
        ⟨r.depth - 1, above ++ below, Span.ofLines c.name c.first line :: r.closed⟩ := by
  unfold closing
  split
  · rename_i c rest found
    obtain ⟨above, below, hcs, hrest, hc, ha⟩ := take_some found
    exact .inr ⟨above, c, below, hcs, hc, ha, by rw [hrest]⟩
  · rename_i missed
    exact .inl ⟨rfl, take_none missed⟩

@[simp] theorem pin_name (depth : Int) (c : Pending) : (pin depth c).name = c.name := by
  unfold pin; split <;> rfl

@[simp] theorem pin_first (depth : Int) (c : Pending) : (pin depth c).first = c.first := by
  unfold pin; split <;> rfl

@[simp] theorem pin_head (depth : Int) (c : Pending) : (pin depth c).head = c.head := by
  simp [Pending.head]

theorem pin_depth (depth : Int) (c : Pending) :
    (pin depth c).depth = some (c.depth.getD depth) := by
  unfold pin
  split
  · rename_i h; simp [h]
  · rename_i h; simp [h]

/-- The state of a resolver at line `n` that has been told exactly the signatures `sigs`. -/
structure Kept (sigs : List (Bytes × Nat)) (n : Nat) (r : Resolver) : Prop where
  accounted : r.heads.Perm (sigs.map fun s => (s.1, (s.2 : Int)))
  stacked : r.pending.Pairwise fun a b => b.first < a.first ∧ (b.depth = none → a.depth = none)
  current : ∀ c ∈ r.pending, 1 ≤ c.first ∧ c.first ≤ n
  ended : r.closed.Pairwise fun a b => b.last ≤ a.last
  spans : ∀ s ∈ r.closed, 1 ≤ s.first ∧ s.first ≤ s.last ∧ s.last ≤ n ∧
    s.count = s.last - s.first + 1

theorem kept_start : Kept [] 0 {} := by
  constructor <;> simp [heads]

theorem Kept.later {sigs : List (Bytes × Nat)} {n m : Nat} {r : Resolver}
    (kept : Kept sigs n r) (le : n ≤ m) : Kept sigs m r where
  accounted := kept.accounted
  stacked := kept.stacked
  current c hc := ⟨(kept.current c hc).1, Nat.le_trans (kept.current c hc).2 le⟩
  ended := kept.ended
  spans s hs := by
    have h := kept.spans s hs
    exact ⟨h.1, h.2.1, by omega, h.2.2.2⟩

theorem Kept.push {sigs : List (Bytes × Nat)} {n : Nat} {r : Resolver}
    (kept : Kept sigs n r) (name : Bytes) :
    Kept (sigs ++ [(name, n + 1)]) (n + 1) (r.push name (n + 1)) where
  accounted := by
    have h : ((name, ((n + 1 : Nat) : Int)) :: r.heads).Perm
        ((name, ((n + 1 : Nat) : Int)) :: sigs.map fun s => (s.1, (s.2 : Int))) :=
      kept.accounted.cons _
    rw [List.map_append]
    exact h.trans (List.perm_append_singleton _ _).symm
  stacked := by
    refine List.pairwise_cons.mpr ⟨?_, kept.stacked⟩
    intro c hc
    exact ⟨Nat.lt_succ_of_le (kept.current c hc).2, fun _ => rfl⟩
  current c hc := by
    rcases List.mem_cons.mp hc with rfl | hc
    · exact ⟨Nat.succ_le_succ (Nat.zero_le n), Nat.le_refl _⟩
    · exact ((kept.later (Nat.le_succ n)).current c hc)
  ended := kept.ended
  spans := (kept.later (Nat.le_succ n)).spans

theorem Kept.opening {sigs : List (Bytes × Nat)} {n : Nat} {r : Resolver}
    (kept : Kept sigs n r) : Kept sigs n r.opening where
  accounted := by
    have same : r.opening.heads = r.heads := by
      simp [heads, Resolver.opening, List.map_map, Function.comp_def]
    exact same ▸ kept.accounted
  stacked := by
    refine List.pairwise_map.mpr (kept.stacked.imp ?_)
    intro a b h
    exact ⟨by simpa using h.1, by simp [pin_depth]⟩
  current c hc := by
    obtain ⟨d, hd, rfl⟩ := List.mem_map.mp hc
    simpa using kept.current d hd
  ended := kept.ended
  spans := kept.spans

/-- Taking a signature out of the middle and adding its span only moves it. -/
theorem Kept.closing {sigs : List (Bytes × Nat)} {n : Nat} {r : Resolver}
    (kept : Kept sigs n r) : Kept sigs n (r.closing n) := by
  rcases closing_cases r n with ⟨same, _⟩ | ⟨above, c, below, hp, _, _, same⟩
  · rw [same]
    exact ⟨kept.accounted, kept.stacked, kept.current, kept.ended, kept.spans⟩
  · have member : c ∈ r.pending := by simp [hp]
    have sub : (above ++ below).Sublist r.pending := by
      rw [hp]
      exact (List.Sublist.refl above).append (List.sublist_cons_self c below)
    rw [same]
    constructor
    · have moved : ((above ++ below).map Pending.head ++ c.head :: r.closed.map Span.head).Perm
          r.heads := by
        simp only [heads, hp, List.map_append, List.map_cons, List.append_assoc, List.cons_append]
        apply List.Perm.append_left
        exact List.perm_middle
      exact moved.trans kept.accounted
    · exact kept.stacked.sublist sub
    · exact fun d hd => kept.current d (sub.subset hd)
    · refine List.pairwise_cons.mpr ⟨?_, kept.ended⟩
      exact fun s hs => (kept.spans s hs).2.2.1
    · intro s hs
      rcases List.mem_cons.mp hs with rfl | hs
      · have h := kept.current c member
        exact ⟨Int.ofNat_le.mpr h.1, Int.ofNat_le.mpr h.2, Int.le_refl _, rfl⟩
      · exact kept.spans s hs

theorem Kept.brace {sigs : List (Bytes × Nat)} {n : Nat} {r : Resolver}
    (kept : Kept sigs n r) (b : Brace) : Kept sigs n (r.brace n b) := by
  cases b with
  | opening => exact kept.opening
  | closing => exact kept.closing

theorem Kept.braces {sigs : List (Bytes × Nat)} {n : Nat} {r : Resolver}
    (kept : Kept sigs n r) (bs : List Brace) : Kept sigs n (r.braces n bs) := by
  induction bs generalizing r with
  | nil => exact kept
  | cons b bs ih => exact ih (kept.brace b)

end Resolver

end SpanGauge
