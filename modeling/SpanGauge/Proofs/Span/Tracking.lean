import SpanGauge.Proofs.Span.Pairing

/-! The resolver obeys the pairing law. At every moment its pending signatures are those
that no brace has closed, the latest first and with the depth to which they are pinned,
and its closed spans are those of the law in the order of the closing braces. -/
namespace SpanGauge

open Event

structure Tracked (es : List Event) (i : Nat) (r : Resolver) (ms : List (Nat × Pending)) :
    Prop where
  depth : r.depth = Event.depth es i
  pending : r.pending = ms.map Prod.snd
  order : ms.Pairwise fun a b => b.1 < a.1
  entries : ∀ m ∈ ms, es[m.1]? = some (.signature m.2.name m.2.first) ∧
    ∀ d, m.2.depth = some d ↔ PinnedTo es m.1 i d
  places : ∀ p, (∃ m ∈ ms, m.1 = p) ↔ p < i ∧ SignatureAt es p ∧ Unclosed es p i

structure Recorded (es : List Event) (i : Nat) (r : Resolver) (cs : List (Nat × Span)) :
    Prop where
  closed : r.closed = cs.map Prod.snd
  order : cs.Pairwise fun a b => b.1 < a.1
  spans : ∀ c ∈ cs, c.1 < i ∧ ∃ p, SpanOf es p c.1 c.2
  complete : ∀ p q, q < i → Closes es p q → ∃ c ∈ cs, c.1 = q

theorem tracked_start (es : List Event) : Tracked es 0 {} [] := by
  constructor
  · simp [Event.depth]
  · rfl
  · exact .nil
  · simp
  · simp

theorem recorded_start (es : List Event) : Recorded es 0 {} [] := by
  constructor
  · rfl
  · exact .nil
  · simp
  · simp

section Kinds

variable {es : List Event} {i : Nat}

theorem not_opening_of_signature (h : SignatureAt es i) : ¬ OpeningAt es i := by
  obtain ⟨name, line, here⟩ := h
  rintro ⟨other, there⟩
  cases Option.some.inj (here.symm.trans there)

theorem not_closing_of_signature (h : SignatureAt es i) : ¬ ClosingAt es i := by
  obtain ⟨name, line, here⟩ := h
  rintro ⟨other, there⟩
  cases Option.some.inj (here.symm.trans there)

theorem not_opening_of_closing (h : ClosingAt es i) : ¬ OpeningAt es i := by
  obtain ⟨line, here⟩ := h
  rintro ⟨other, there⟩
  cases Option.some.inj (here.symm.trans there)

theorem unclosed_succ_of_other {p : Nat} (other : ¬ ClosingAt es i) :
    Unclosed es p (i + 1) ↔ Unclosed es p i := by
  rw [unclosed_succ]
  constructor
  · exact And.left
  · exact fun h => ⟨h, fun closes => other closes.1.due.2.1⟩

end Kinds

namespace Tracked

variable {es : List Event} {i : Nat} {r : Resolver} {ms : List (Nat × Pending)}

theorem unclosed (t : Tracked es i r ms) {m : Nat × Pending} (member : m ∈ ms) :
    m.1 < i ∧ SignatureAt es m.1 ∧ Unclosed es m.1 i := (t.places m.1).mp ⟨m, member, rfl⟩

theorem push (t : Tracked es i r ms) {name : Bytes} {line : Nat}
    (here : es[i]? = some (.signature name line)) :
    Tracked es (i + 1) (r.push name line) ((i, ⟨name, line, none⟩) :: ms) := by
  have signature : SignatureAt es i := ⟨name, line, here⟩
  have quiet := not_opening_of_signature signature
  constructor
  · exact t.depth.trans (depth_signature signature).symm
  · simp [Resolver.push, t.pending]
  · exact List.pairwise_cons.mpr ⟨fun m hm => (t.unclosed hm).1, t.order⟩
  · intro m hm
    rcases List.mem_cons.mp hm with rfl | hm
    · refine ⟨here, ?_⟩
      intro d
      constructor
      · intro h
        cases h
      · rintro ⟨o, lt, pinned, _⟩
        have := pinned.1
        omega
    · refine ⟨(t.entries m hm).1, ?_⟩
      intro d
      rw [(t.entries m hm).2, pinnedTo_succ quiet]
  · intro p
    rw [unclosed_succ_of_other (not_closing_of_signature signature)]
    constructor
    · rintro ⟨m, hm, rfl⟩
      rcases List.mem_cons.mp hm with rfl | hm
      · refine ⟨Nat.lt_succ_self i, signature, ?_⟩
        intro k lt free
        have := free.due.lt
        omega
      · have h := t.unclosed hm
        exact ⟨Nat.lt_succ_of_lt h.1, h.2⟩
    · rintro ⟨lt, sig, unclosed⟩
      rcases Nat.lt_succ_iff_lt_or_eq.mp lt with lt | rfl
      · obtain ⟨m, hm, same⟩ := (t.places p).mpr ⟨lt, sig, unclosed⟩
        exact ⟨m, List.mem_cons_of_mem _ hm, same⟩
      · exact ⟨_, List.mem_cons_self, rfl⟩

theorem pinnedBy_here (opening : OpeningAt es i) {p : Nat} (lt : p < i)
    (none : ∀ d, ¬ PinnedTo es p i d) : PinnedBy es p i := by
  refine ⟨lt, opening, ?_⟩
  intro k pk ki ok
  obtain ⟨o, le, pinned⟩ := exists_pinnedBy pk ok
  exact none _ ⟨o, Nat.lt_of_le_of_lt le ki, pinned, rfl⟩

theorem pin_entry (opening : OpeningAt es i) {m : Nat × Pending} (lt : m.1 < i)
    (entry : ∀ d, m.2.depth = some d ↔ PinnedTo es m.1 i d) (d : Int) :
    (Resolver.pin (Event.depth es (i + 1)) m.2).depth = some d ↔ PinnedTo es m.1 (i + 1) d := by
  have pinned : PinnedTo es m.1 (i + 1) (m.2.depth.getD (Event.depth es (i + 1))) := by
    cases h : m.2.depth with
    | some e => exact pinnedTo_mono ((entry e).mp h) (Nat.le_succ i)
    | none =>
      have free : ∀ e, ¬ PinnedTo es m.1 i e := by
        intro e pinned
        rw [(entry e).mpr pinned] at h
        cases h
      exact ⟨i, Nat.lt_succ_self i, pinnedBy_here opening lt free, rfl⟩
  rw [Resolver.pin_depth, Option.some_inj]
  constructor
  · rintro rfl
    exact pinned
  · exact pinnedTo_unique pinned

theorem opening (t : Tracked es i r ms) (opening : OpeningAt es i) :
    Tracked es (i + 1) r.opening
      (ms.map fun m => (m.1, Resolver.pin (Event.depth es (i + 1)) m.2)) := by
  have level : r.depth + 1 = Event.depth es (i + 1) := by
    rw [t.depth, depth_opening opening]
  have quiet : ¬ ClosingAt es i := fun closing => not_opening_of_closing closing opening
  constructor
  · exact level
  · simp [Resolver.opening, t.pending, level, Function.comp_def]
  · exact List.pairwise_map.mpr t.order
  · intro n hn
    obtain ⟨m, hm, rfl⟩ := List.mem_map.mp hn
    have entry := t.entries m hm
    refine ⟨by simpa using entry.1, ?_⟩
    exact pin_entry opening (t.unclosed hm).1 entry.2
  · intro p
    rw [unclosed_succ_of_other quiet]
    constructor
    · rintro ⟨n, hn, rfl⟩
      obtain ⟨m, hm, rfl⟩ := List.mem_map.mp hn
      have h := t.unclosed hm
      exact ⟨Nat.lt_succ_of_lt h.1, h.2⟩
    · rintro ⟨lt, sig, unclosed⟩
      have ne : p ≠ i := by
        rintro rfl
        exact not_opening_of_signature sig opening
      obtain ⟨m, hm, same⟩ := (t.places p).mpr ⟨by omega, sig, unclosed⟩
      exact ⟨_, List.mem_map_of_mem hm, same⟩

theorem due_iff (t : Tracked es i r ms) (closing : ClosingAt es i) {m : Nat × Pending}
    (member : m ∈ ms) : Due es m.1 i ↔ m.2.depth = some r.depth := by
  rw [(t.entries m member).2, t.depth]
  constructor
  · exact fun due => due.2.2
  · exact fun pinned => ⟨(t.unclosed member).2.1, closing, pinned⟩

theorem tracked_of_due (t : Tracked es i r ms) {p : Nat} (due : Due es p i)
    (unclosed : Unclosed es p i) : ∃ m ∈ ms, m.1 = p :=
  (t.places p).mpr ⟨due.lt, due.1, unclosed⟩

/-- What a closing brace does, in terms of the law: either no signature ends here, or the
one that does is taken out and recorded. -/
theorem closing_cases (t : Tracked es i r ms) {line : Nat}
    (here : es[i]? = some (.brace .closing line)) :
    (r.closing line = { r with depth := r.depth - 1 } ∧ ∀ p, ¬ Closes es p i) ∨
    ∃ above m below, ms = above ++ m :: below ∧ Closes es m.1 i ∧
      r.closing line = ⟨r.depth - 1, (above ++ below).map Prod.snd,
        Span.ofLines m.2.name m.2.first line :: r.closed⟩ := by
  have closing : ClosingAt es i := ⟨line, here⟩
  rcases Resolver.closing_cases r line with ⟨same, missed⟩ | ⟨as, c, bs, split, hit, missed, same⟩
  · refine .inl ⟨same, ?_⟩
    intro p closes
    obtain ⟨m, hm, rfl⟩ := t.tracked_of_due closes.1.due closes.2
    have pending : m.2 ∈ r.pending := t.pending ▸ List.mem_map_of_mem hm
    exact missed m.2 pending ((t.due_iff closing hm).mp closes.1.due)
  · rw [t.pending] at split
    obtain ⟨above, rest, rfl, rfl, tail⟩ := List.map_eq_append_iff.mp split
    obtain ⟨m, below, rfl, rfl, rfl⟩ := List.map_eq_cons_iff.mp tail
    refine .inr ⟨above, m, below, rfl, ?_, by rw [same, List.map_append]⟩
    have member : m ∈ above ++ m :: below := by simp
    have own := (t.unclosed member).2.2
    refine ⟨free_iff.mpr ⟨(t.due_iff closing member).mpr hit, ?_⟩, own⟩
    -- a later signature that is due and unclosed would stand above and be found first
    intro p later due unclosed
    obtain ⟨n, hn, rfl⟩ := t.tracked_of_due due unclosed
    have order := List.pairwise_append.mp t.order
    rcases List.mem_append.mp hn with hn' | hn'
    · exact missed n.2 (List.mem_map_of_mem hn') ((t.due_iff closing hn).mp due)
    · rcases List.mem_cons.mp hn' with rfl | hn'
      · exact Nat.lt_irrefl _ later
      · have lower := (List.pairwise_cons.mp order.2.1).1 n hn'
        omega

theorem after_closing (t : Tracked es i r ms) (closing : ClosingAt es i)
    {rest : List (Nat × Pending)} {s : Resolver} (depth : s.depth = r.depth - 1)
    (pending : s.pending = rest.map Prod.snd) (sub : rest.Sublist ms)
    (left : ∀ m ∈ ms, m ∈ rest ↔ ¬ Closes es m.1 i) : Tracked es (i + 1) s rest := by
  have quiet := not_opening_of_closing closing
  constructor
  · rw [depth, t.depth, depth_closing closing]
  · exact pending
  · exact t.order.sublist sub
  · intro m hm
    have entry := t.entries m (sub.subset hm)
    refine ⟨entry.1, ?_⟩
    intro d
    rw [entry.2, pinnedTo_succ quiet]
  · intro p
    rw [unclosed_succ]
    constructor
    · rintro ⟨m, hm, rfl⟩
      have h := t.unclosed (sub.subset hm)
      exact ⟨Nat.lt_succ_of_lt h.1, h.2.1, h.2.2, (left m (sub.subset hm)).mp hm⟩
    · rintro ⟨lt, sig, unclosed, pending⟩
      have ne : p ≠ i := by
        rintro rfl
        exact not_closing_of_signature sig closing
      obtain ⟨m, hm, rfl⟩ := (t.places p).mpr ⟨by omega, sig, unclosed⟩
      exact ⟨m, (left m hm).mpr pending, rfl⟩

theorem closing (t : Tracked es i r ms) {line : Nat}
    (here : es[i]? = some (.brace .closing line)) :
    ∃ rest, Tracked es (i + 1) (r.closing line) rest := by
  have closing : ClosingAt es i := ⟨line, here⟩
  rcases t.closing_cases here with ⟨same, none⟩ | ⟨above, m, below, rfl, closes, same⟩
  · refine ⟨ms, t.after_closing closing (by rw [same]) (by rw [same]; exact t.pending)
      (List.Sublist.refl ms) ?_⟩
    intro m hm
    exact ⟨fun _ => none m.1, fun _ => hm⟩
  · have sub : (above ++ below).Sublist (above ++ m :: below) :=
      (List.Sublist.refl above).append (List.sublist_cons_self m below)
    refine ⟨above ++ below, t.after_closing closing (by rw [same]) (by rw [same]) sub ?_⟩
    intro n hn
    have order := List.pairwise_append.mp t.order
    constructor
    · -- no other tracked signature has the place of the one that ends
      intro hrest ends
      have place := closes_unique ends closes
      rcases List.mem_append.mp hrest with h | h
      · have := order.2.2 n h m (by simp)
        omega
      · have := (List.pairwise_cons.mp order.2.1).1 n h
        omega
    · intro pending
      rcases List.mem_append.mp hn with h | h
      · exact List.mem_append_left _ h
      · rcases List.mem_cons.mp h with rfl | h
        · exact absurd closes pending
        · exact List.mem_append_right _ h

end Tracked

namespace Recorded

variable {es : List Event} {i : Nat} {r : Resolver} {cs : List (Nat × Span)}

theorem unchanged (c : Recorded es i r cs) {s : Resolver} (same : s.closed = r.closed)
    (none : ∀ p, ¬ Closes es p i) : Recorded es (i + 1) s cs where
  closed := same.trans c.closed
  order := c.order
  spans m hm := ⟨Nat.lt_succ_of_lt (c.spans m hm).1, (c.spans m hm).2⟩
  complete p q lt closes := by
    rcases Nat.lt_succ_iff_lt_or_eq.mp lt with lt | rfl
    · exact c.complete p q lt closes
    · exact absurd closes (none p)

theorem other (c : Recorded es i r cs) {s : Resolver} (same : s.closed = r.closed)
    (other : ¬ ClosingAt es i) : Recorded es (i + 1) s cs :=
  c.unchanged same fun _ closes => other closes.1.due.2.1

theorem closing {ms : List (Nat × Pending)} (c : Recorded es i r cs) (t : Tracked es i r ms)
    {line : Nat} (here : es[i]? = some (.brace .closing line)) :
    ∃ ds, Recorded es (i + 1) (r.closing line) ds := by
  rcases t.closing_cases here with ⟨same, none⟩ | ⟨above, m, below, rfl, closes, same⟩
  · exact ⟨cs, c.unchanged (by rw [same]) none⟩
  · have entry := (t.entries m (by simp)).1
    refine ⟨(i, Span.ofLines m.2.name m.2.first line) :: cs, ?_⟩
    constructor
    · rw [same, List.map_cons, ← c.closed]
    · exact List.pairwise_cons.mpr ⟨fun d hd => (c.spans d hd).1, c.order⟩
    · intro d hd
      rcases List.mem_cons.mp hd with rfl | hd
      · exact ⟨Nat.lt_succ_self i, m.1, closes, _, _, _, entry, here, rfl⟩
      · exact ⟨Nat.lt_succ_of_lt (c.spans d hd).1, (c.spans d hd).2⟩
    · intro p q lt ends
      rcases Nat.lt_succ_iff_lt_or_eq.mp lt with lt | rfl
      · obtain ⟨d, hd, place⟩ := c.complete p q lt ends
        exact ⟨d, List.mem_cons_of_mem _ hd, place⟩
      · exact ⟨_, List.mem_cons_self, rfl⟩

end Recorded

namespace Resolver

def upTo (es : List Event) (i : Nat) : Resolver := ({} : Resolver).run (es.take i)

theorem upTo_succ {es : List Event} {i : Nat} {e : Event} (here : es[i]? = some e) :
    upTo es (i + 1) = (upTo es i).event e := by
  rw [upTo, List.take_add_one, here, Option.toList_some, run_append]
  rfl

theorem upTo_length (es : List Event) : upTo es es.length = ({} : Resolver).run es := by
  rw [upTo, List.take_length]

theorem upTo_follows (es : List Event) (i : Nat) (bound : i ≤ es.length) :
    (∃ ms, Tracked es i (upTo es i) ms) ∧ ∃ cs, Recorded es i (upTo es i) cs := by
  induction i with
  | zero => exact ⟨⟨[], tracked_start es⟩, [], recorded_start es⟩
  | succ i ih =>
    obtain ⟨⟨ms, t⟩, cs, c⟩ := ih (Nat.le_of_lt bound)
    have here : es[i]? = some es[i] := List.getElem?_eq_getElem bound
    rw [upTo_succ here]
    cases h : es[i] with
    | signature name line =>
      rw [h] at here
      exact ⟨⟨_, t.push here⟩, cs, c.other rfl (not_closing_of_signature ⟨name, line, here⟩)⟩
    | brace b line =>
      rw [h] at here
      cases b with
      | opening =>
        have opening : OpeningAt es i := ⟨line, here⟩
        refine ⟨⟨_, t.opening opening⟩, cs, c.other rfl ?_⟩
        intro closing
        exact not_opening_of_closing closing opening
      | closing => exact ⟨t.closing here, c.closing t here⟩

end Resolver

end SpanGauge
