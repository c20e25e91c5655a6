import SpanGauge.Proofs.Span.Event
import SpanGauge.Proofs.Span.Resolver

/-! A run of the resolver on top of another. Depths and line numbers are only compared
with each other, so a run that starts at another depth and another line does the same,
moved by both; what was pending before stays untouched as long as no brace comes back to
its depth. Spans are only ever added. -/
namespace SpanGauge

def Event.shift (n : Nat) : Event → Event
  | .signature name line => .signature name (line + n)
  | .brace b line => .brace b (line + n)

def Span.shift (n : Nat) (s : Span) : Span := { s with first := s.first + n, last := s.last + n }

def Pending.shift (depth : Int) (n : Nat) (c : Pending) : Pending :=
  ⟨c.name, c.first + n, c.depth.map (· + depth)⟩

theorem Span.ofLines_shift (name : Bytes) (first last n : Nat) :
    (Span.ofLines name first last).shift n = Span.ofLines name (first + n) (last + n) := by
  simp only [Span.ofLines, Span.shift, Span.mk.injEq, true_and]
  omega

namespace Resolver

def atop (base : Resolver) (n : Nat) (r : Resolver) : Resolver :=
  ⟨r.depth + base.depth, r.pending.map (Pending.shift base.depth n) ++ base.pending,
    r.closed.map (Span.shift n) ++ base.closed⟩

@[simp] theorem atop_start (base : Resolver) (n : Nat) : atop base n {} = base := by
  simp [atop]

theorem closing_missed {r : Resolver} (missed : ∀ c ∈ r.pending, c.depth ≠ some r.depth)
    (line : Nat) : r.closing line = { r with depth := r.depth - 1 } := by
  rcases closing_cases r line with ⟨same, _⟩ | ⟨above, c, below, split, hit, _⟩
  · exact same
  · exact absurd hit (missed c (by simp [split]))

theorem closing_depth (r : Resolver) (line : Nat) : (r.closing line).depth = r.depth - 1 := by
  rcases closing_cases r line with ⟨same, _⟩ | ⟨_, _, _, _, _, _, same⟩ <;> rw [same]

theorem closing_closed (r : Resolver) (line : Nat) : r.closed <:+ (r.closing line).closed := by
  rcases closing_cases r line with ⟨same, _⟩ | ⟨_, c, _, _, _, _, same⟩
  · have kept : (r.closing line).closed = r.closed := by rw [same]
    exact kept ▸ List.suffix_rfl
  · rw [same]
    exact List.suffix_cons _ _

theorem closing_pending (r : Resolver) (line : Nat) :
    (r.closing line).pending.Sublist r.pending := by
  rcases closing_cases r line with ⟨same, _⟩ | ⟨above, c, below, split, _, _, same⟩
  · have kept : (r.closing line).pending = r.pending := by rw [same]
    exact kept ▸ List.Sublist.refl _
  · rw [same, split]
    exact (List.Sublist.refl above).append (List.sublist_cons_self c below)

theorem closing_found {r : Resolver} {above below : List Pending} {c : Pending}
    (split : r.pending = above ++ c :: below) (missed : ∀ a ∈ above, a.depth ≠ some r.depth)
    (hit : c.depth = some r.depth) (line : Nat) :
    r.closing line =
      ⟨r.depth - 1, above ++ below, Span.ofLines c.name c.first line :: r.closed⟩ := by
  have found : take r.depth r.pending = some (c, above ++ below) := by
    rw [split]
    clear split
    induction above with
    | nil => simp [take, hit]
    | cons a above ih =>
      have rest := ih fun b member => missed b (List.mem_cons_of_mem a member)
      simp [take, missed a List.mem_cons_self, rest]
  rw [closing, found]

theorem pin_shift (depth base : Int) (n : Nat) (c : Pending) :
    pin (depth + base) (c.shift base n) = (pin depth c).shift base n := by
  obtain ⟨name, first, _ | d⟩ := c <;> rfl

theorem pin_pinned {depth d : Int} {c : Pending} (pinned : c.depth = some d) :
    pin depth c = c := by
  simp [pin, pinned]

theorem shift_depth {base depth : Int} {n : Nat} {c : Pending} :
    (c.shift base n).depth = some (depth + base) ↔ c.depth = some depth := by
  obtain ⟨name, first, _ | d⟩ := c
  · simp [Pending.shift]
  · simp [Pending.shift]

theorem atop_opening (base : Resolver) (n : Nat) (r : Resolver)
    (pinned : ∀ c ∈ base.pending, ∃ d, c.depth = some d) :
    (atop base n r).opening = atop base n r.opening := by
  have deeper : r.depth + base.depth + 1 = r.depth + 1 + base.depth := by omega
  have below : base.pending.map (pin (r.depth + 1 + base.depth)) = base.pending := by
    have same : ∀ c ∈ base.pending, pin (r.depth + 1 + base.depth) c = id c := by
      intro c member
      obtain ⟨d, pinned⟩ := pinned c member
      exact pin_pinned pinned
    rw [List.map_congr_left same, List.map_id]
  simp only [atop, opening, deeper, List.map_append, List.map_map, below, Function.comp_def,
    pin_shift]

theorem atop_closing (base : Resolver) (n : Nat) (r : Resolver) (line : Nat)
    (apart : ∀ c ∈ base.pending, c.depth ≠ some (r.depth + base.depth)) :
    (atop base n r).closing (line + n) = atop base n (r.closing line) := by
  have lower : r.depth + base.depth - 1 = r.depth - 1 + base.depth := by omega
  have shifted : ∀ {cs : List Pending}, (∀ c ∈ cs, c.depth ≠ some r.depth) →
      ∀ c ∈ cs.map (Pending.shift base.depth n), c.depth ≠ some (r.depth + base.depth) := by
    intro cs missed c member
    obtain ⟨d, hd, rfl⟩ := List.mem_map.mp member
    exact fun hit => missed d hd (shift_depth.mp hit)
  rcases closing_cases r line with ⟨same, missed⟩ | ⟨above, c, below, split, hit, missed, same⟩
  · have miss : ∀ c ∈ (atop base n r).pending, c.depth ≠ some (atop base n r).depth := by
      intro c member
      exact (List.mem_append.mp member).elim (shifted missed c) (apart c)
    rw [closing_missed miss, same]
    simp only [atop, lower]
  · have there : (atop base n r).pending = above.map (Pending.shift base.depth n) ++
        c.shift base.depth n :: (below.map (Pending.shift base.depth n) ++ base.pending) := by
      simp [atop, split]
    rw [closing_found there (shifted missed) (shift_depth.mpr hit), same]
    simp only [atop, lower, List.map_append, List.map_cons, List.cons_append, List.append_assoc,
      Span.ofLines_shift]
    rfl

/-- One event on top of another resolver, as long as what is pending there is pinned no
deeper than the depth to which the event leads. -/
theorem atop_event (base : Resolver) (n : Nat) (r : Resolver) (e : Event)
    (low : ∀ c ∈ base.pending, ∃ d, c.depth = some d ∧ d ≤ (r.event e).depth + base.depth) :
    (atop base n r).event (e.shift n) = atop base n (r.event e) := by
  cases e with
  | signature name line => rfl
  | brace b line =>
    cases b with
    | opening =>
      apply atop_opening
      intro c member
      obtain ⟨d, pinned, _⟩ := low c member
      exact ⟨d, pinned⟩
    | closing =>
      apply atop_closing
      intro c member hit
      obtain ⟨d, pinned, le⟩ := low c member
      cases Option.some.inj (pinned.symm.trans hit)
      have lower : (r.closing line).depth = r.depth - 1 := closing_depth r line
      change r.depth + base.depth ≤ (r.closing line).depth + base.depth at le
      omega

theorem atop_run (base : Resolver) (n : Nat) (r : Resolver) (es : List Event)
    (low : ∀ c ∈ base.pending, ∃ d, c.depth = some d ∧
      ∀ fs, fs <+: es → d ≤ (r.run fs).depth + base.depth) :
    (atop base n r).run (es.map (Event.shift n)) = atop base n (r.run es) := by
  induction es generalizing r with
  | nil => rfl
  | cons e es ih =>
    rw [List.map_cons, run_cons, atop_event base n r e, run_cons, ih]
    · intro c member
      obtain ⟨d, pinned, le⟩ := low c member
      exact ⟨d, pinned, fun fs front => le (e :: fs) ((List.prefix_cons_inj e).mpr front)⟩
    · intro c member
      obtain ⟨d, pinned, le⟩ := low c member
      exact ⟨d, pinned, le [e] (by simp)⟩

theorem event_closed (r : Resolver) (e : Event) : r.closed <:+ (r.event e).closed := by
  cases e with
  | signature name line => exact List.suffix_rfl
  | brace b line =>
    cases b with
    | opening => exact List.suffix_rfl
    | closing => exact closing_closed r line

theorem run_closed (r : Resolver) (es : List Event) : r.closed <:+ (r.run es).closed := by
  induction es generalizing r with
  | nil => exact List.suffix_rfl
  | cons e es ih => exact (event_closed r e).trans (ih (r.event e))

def Positive (r : Resolver) : Prop := ∀ c ∈ r.pending, ∀ d, c.depth = some d → 0 < d

theorem event_positive {r : Resolver} (positive : r.Positive) (above : 0 ≤ r.depth)
    (e : Event) : (r.event e).Positive := by
  intro c member d pinned
  cases e with
  | signature name line =>
    rcases List.mem_cons.mp member with rfl | member
    · cases pinned
    · exact positive c member d pinned
  | brace b line =>
    cases b with
    | opening =>
      obtain ⟨c, before, rfl⟩ := List.mem_map.mp member
      rw [pin_depth] at pinned
      cases h : c.depth with
      | none =>
        rw [h] at pinned
        have own : r.depth + 1 = d := Option.some.inj pinned
        omega
      | some e =>
        rw [h] at pinned
        exact positive c before d (h.trans pinned)
    | closing => exact positive c ((closing_pending r line).subset member) d pinned

/-- Where no event leads below depth zero, no signature is pinned to depth zero. -/
theorem run_positive {r : Resolver} (positive : r.Positive) {es : List Event}
    (rises : ∀ fs, fs <+: es → 0 ≤ (r.run fs).depth) : (r.run es).Positive := by
  induction es generalizing r with
  | nil => exact positive
  | cons e es ih =>
    apply ih (event_positive positive (rises [] (by simp)) e)
    intro fs front
    exact rises (e :: fs) ((List.prefix_cons_inj e).mpr front)

end Resolver

namespace Event

theorem ofLines_fresh {x y : Lexer} (fresh : x.atLineStart = y.atLineStart) (n : Nat)
    (ls : List Bytes) : ofLines x n ls = ofLines y n ls := by
  cases ls with
  | nil => rfl
  | cons l ls => rw [ofLines_cons, ofLines_cons, Lexer.line_fresh fresh]

theorem ofLines_append (x : Lexer) (n : Nat) (ls ms : List Bytes) :
    ofLines x n (ls ++ ms) = ofLines x n ls ++ ofLines (x.lines ls) (n + ls.length) ms := by
  induction ls generalizing x n with
  | nil => rfl
  | cons l ls ih =>
    have further : n + (l :: ls).length = n + 1 + ls.length := by
      rw [List.length_cons]
      omega
    rw [List.cons_append, ofLines_cons, ofLines_cons, ih, further]
    simp only [List.append_assoc]
    rfl

theorem ofHead_shift (n k : Nat) (l : Bytes) :
    ofHead (n + k) l = (ofHead n l).map (shift k) := by
  unfold ofHead
  split
  · simp only [List.map_cons, List.map_nil, shift, Nat.add_right_comm]
  · rfl

theorem ofLines_shift (x : Lexer) (n k : Nat) (ls : List Bytes) :
    ofLines x (n + k) ls = (ofLines x n ls).map (shift k) := by
  induction ls generalizing x n with
  | nil => rfl
  | cons l ls ih =>
    have next : n + k + 1 = n + 1 + k := by omega
    rw [ofLines_cons, ofLines_cons, ofHead_shift, next, ih]
    simp only [List.map_append, List.map_map, Function.comp_def, shift]

end Event

end SpanGauge
