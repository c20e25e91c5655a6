import Mathlib.Data.List.Forall2
import SpanGauge.Proofs.Span.Invariant
import SpanGauge.Proofs.Span.TwoStage

/-! Where no two signatures wait for the same brace, extraction is bracket matching: a
signature lasts until the brace that matches its own opening brace. The depths are only
compared with each other, so stray closing braces change nothing. -/
namespace SpanGauge

namespace Event

/-- `q` is the first closing brace after `o` at the depth to which `o` has led. -/
def Matching (es : List Event) (o q : Nat) : Prop :=
  OpeningAt es o ∧ o < q ∧ ClosingAt es q ∧ depth es q = depth es (o + 1) ∧
    ∀ k, o < k → k < q → ClosingAt es k → depth es k ≠ depth es (o + 1)

variable {es : List Event}

theorem closing_or_depth_le (es : List Event) (i : Nat) :
    ClosingAt es i ∨ depth es i ≤ depth es (i + 1) := by
  cases here : es[i]? with
  | none =>
    right
    simp only [depth, List.take_add_one, here, Option.toList_none, List.append_nil]
    exact Int.le_refl _
  | some e =>
    cases e with
    | signature name line =>
      exact .inr (Int.le_of_eq (depth_signature ⟨name, line, here⟩).symm)
    | brace b line =>
      cases b with
      | opening =>
        have step := depth_opening ⟨line, here⟩
        exact .inr (by omega)
      | closing => exact .inl ⟨line, here⟩

/-- The depth falls by single steps: it cannot come below `d` without a closing brace
at `d`. -/
theorem exists_closing_at {a b : Nat} {d : Int} (le : a ≤ b) (above : d ≤ depth es a)
    (below : depth es b < d) : ∃ k, a ≤ k ∧ k < b ∧ ClosingAt es k ∧ depth es k = d := by
  induction b with
  | zero =>
    have same : a = 0 := Nat.le_zero.mp le
    subst same
    omega
  | succ b ih =>
    rcases Nat.eq_or_lt_of_le le with same | lt
    · subst same
      omega
    · have le' : a ≤ b := Nat.lt_succ_iff.mp lt
      by_cases sooner : depth es b < d
      · obtain ⟨k, ak, kb, closing, level⟩ := ih le' sooner
        exact ⟨k, ak, Nat.lt_succ_of_lt kb, closing, level⟩
      · rcases closing_or_depth_le es b with closing | rising
        · have step := depth_closing closing
          exact ⟨b, le', Nat.lt_succ_self b, closing, by omega⟩
        · omega

theorem exists_matching {o k : Nat} (opening : OpeningAt es o) (lt : o < k)
    (closing : ClosingAt es k) (level : depth es k = depth es (o + 1)) :
    ∃ q, q ≤ k ∧ Matching es o q := by
  obtain ⟨q, le, ⟨oq, closing', level'⟩, first⟩ := exists_first
    (P := fun j => o < j ∧ ClosingAt es j ∧ depth es j = depth es (o + 1)) ⟨lt, closing, level⟩
  refine ⟨q, le, opening, oq, closing', level', ?_⟩
  intro j oj jq closing level
  exact first j jq ⟨oj, closing, level⟩

/-- A span that reaches from its signature to the brace at `q`, which matches the first
opening brace after the signature. -/
def Bracketed (es : List Event) (q : Nat) (s : Span) : Prop :=
  ∃ p o name first last, es[p]? = some (.signature name first) ∧ PinnedBy es p o ∧
    Matching es o q ∧ es[q]? = some (.brace .closing last) ∧ s = Span.ofLines name first last

def Single (es : List Event) : Prop :=
  ∀ o p p', SignatureAt es p → SignatureAt es p' → PinnedBy es p o → PinnedBy es p' o → p = p'

/-- When `q` matches the brace of `p`, it is due to no later signature: another brace
that leads to the same depth before `q` would need a closing brace at that depth first. -/
theorem not_due_later (single : Single es) {p p' o q : Nat} (signature : SignatureAt es p)
    (pinned : PinnedBy es p o) (matching : Matching es o q) (later : p < p') :
    ¬ Due es p' q := by
  rintro ⟨signature', closing, o', before, pinned', level⟩
  obtain ⟨opening, _, _, height, least⟩ := matching
  have after : o ≤ o' := by
    apply Nat.le_of_not_lt
    intro lt
    exact pinned.2.2 o' (Nat.lt_trans later pinned'.1) lt pinned'.2.1
  rcases Nat.eq_or_lt_of_le after with same | lt
  · subst same
    have equal := single o p p' signature signature' pinned pinned'
    omega
  · have step := depth_opening pinned'.2.1
    obtain ⟨k, lower, upper, closing', level'⟩ :=
      exists_closing_at (d := depth es (o + 1)) lt (Int.le_refl _) (by omega)
    exact least k lower (Nat.lt_trans upper before) closing' level'

theorem closes_of_matching (single : Single es) {p o q : Nat} (signature : SignatureAt es p)
    (pinned : PinnedBy es p o) (matching : Matching es o q) : Closes es p q := by
  obtain ⟨opening, lt, closing, level, least⟩ := id matching
  have due : Due es p q := ⟨signature, closing, o, lt, pinned, level.symm⟩
  refine ⟨free_iff.mpr ⟨due, ?_⟩, ?_⟩
  · intro p' later other
    exact absurd other (not_due_later single signature pinned matching later)
  · intro k kq free
    obtain ⟨_, closing', o', before, pinned', level'⟩ := free.due
    cases pinnedBy_unique pinned pinned'
    exact least k before kq closing' level'.symm

theorem closes_iff_matching (single : Single es) {p q : Nat} (signature : SignatureAt es p) :
    Closes es p q ↔ ∃ o, PinnedBy es p o ∧ Matching es o q := by
  constructor
  · intro closes
    obtain ⟨_, closing, o, before, pinned, level⟩ := closes.1.due
    obtain ⟨k, le, matching⟩ := exists_matching pinned.2.1 before closing level.symm
    have same := closes_place_unique (closes_of_matching single signature pinned matching) closes
    exact ⟨o, pinned, same ▸ matching⟩
  · rintro ⟨o, pinned, matching⟩
    exact closes_of_matching single signature pinned matching

theorem waiting_of_pinnedBy {p o : Nat} (pinned : PinnedBy es p o) :
    Unclosed es p o ∧ ∀ d, ¬ PinnedTo es p o d := by
  have free : ∀ i d, i ≤ o → ¬ PinnedTo es p i d := by
    rintro i d le ⟨o', before, pinned', _⟩
    cases pinnedBy_unique pinned pinned'
    omega
  refine ⟨?_, fun d => free o d (Nat.le_refl o)⟩
  intro k lt freed
  exact free k _ (Nat.le_of_lt lt) freed.due.2.2

end Event

open Event

theorem eq_of_length_le_one {α : Type} {l : List α} (short : l.length ≤ 1) {a b : α}
    (ha : a ∈ l) (hb : b ∈ l) : a = b := by
  match l, short with
  | [], _ => cases ha
  | [c], _ => rw [List.mem_singleton.mp ha, List.mem_singleton.mp hb]

theorem single_of_waiting {es : List Event}
    (waiting : ∀ o, OpeningAt es o →
      ((Resolver.upTo es o).stack.filter fun c => c.depth.isNone).length ≤ 1) : Single es := by
  intro o p p' signature signature' pinned pinned'
  obtain ⟨line, here⟩ := pinned.2.1
  obtain ⟨bound, _⟩ := List.getElem?_eq_some_iff.mp here
  obtain ⟨⟨ms, tracked⟩, _⟩ := Resolver.upTo_follows es o (Nat.le_of_lt bound)
  have short : (ms.filter fun m => m.2.depth.isNone).length ≤ 1 := by
    have h := waiting o pinned.2.1
    rw [Resolver.stack, tracked.pending, List.filter_reverse, List.length_reverse,
      List.filter_map, List.length_map] at h
    exact h
  have member : ∀ {p}, SignatureAt es p → PinnedBy es p o →
      ∃ m ∈ ms.filter fun m => m.2.depth.isNone, m.1 = p := by
    intro p signature pinned
    obtain ⟨unclosed, none⟩ := waiting_of_pinnedBy pinned
    obtain ⟨m, hm, rfl⟩ := (tracked.places p).mpr ⟨pinned.1, signature, unclosed⟩
    refine ⟨m, List.mem_filter.mpr ⟨hm, ?_⟩, rfl⟩
    cases h : m.2.depth with
    | none => rfl
    | some d => exact absurd ((tracked.entries m hm).2 d |>.mp h) (none d)
  obtain ⟨m, hm, rfl⟩ := member signature pinned
  obtain ⟨m', hm', rfl⟩ := member signature' pinned'
  rw [eq_of_length_le_one short hm hm']

theorem waiting_at_opening {text : Bytes}
    (waiting : ∀ r, Reading.Reached (Text.lines text) r → r.AtOpening →
      (r.scan.resolver.stack.filter fun c => c.depth.isNone).length ≤ 1)
    (o : Nat) (opening : OpeningAt (ofText text) o) :
    ((Resolver.upTo (ofText text) o).stack.filter fun c => c.depth.isNone).length ≤ 1 := by
  obtain ⟨line, here⟩ := opening
  obtain ⟨bound, there⟩ := List.getElem?_eq_some_iff.mp here
  have split : ofText text = (ofText text).take o ++
      .brace .opening line :: (ofText text).drop (o + 1) := by
    rw [← there, List.getElem_cons_drop, List.take_append_drop]
  obtain ⟨r, reached, resolver, emits⟩ := Reading.reached_event split
  have h := waiting r reached (Reading.emitted_atOpening.mpr ⟨line, emits⟩)
  rw [resolver] at h
  exact h

theorem Span.extract_starts (text : Bytes) :
    (Span.extract text).Pairwise fun s t => s.first ≠ t.first := by
  obtain ⟨r, reached, same⟩ := Span.extract_reached text
  exact same ▸ (Reading.kept_reached reached).accounted.starts

theorem filter_first {l : List Span} (distinct : l.Pairwise fun s t => s.first ≠ t.first)
    {s : Span} (member : s ∈ l) : l.filter (fun t => t.first = s.first) = [s] := by
  induction l with
  | nil => cases member
  | cons t l ih =>
    obtain ⟨apart, rest⟩ := List.pairwise_cons.mp distinct
    rcases List.mem_cons.mp member with rfl | member
    · have others : l.filter (fun t => t.first = s.first) = [] :=
        List.filter_eq_nil_iff.mpr fun u hu same => apart u hu (of_decide_eq_true same).symm
      simp [others]
    · have ne : ¬ t.first = s.first := apart s member
      simp [ne, ih rest member]

/-- Where at most one signature waits whenever a code brace opens, a signature is emitted
exactly when its first opening brace has a match, once, with the lines of signature and
match, and the spans come in the order of the matching braces. -/
theorem extract_matches_brackets (text : Bytes)
    (waiting : ∀ r, Reading.Reached (Text.lines text) r → r.AtOpening →
      (r.scan.resolver.stack.filter fun c => c.depth.isNone).length ≤ 1) :
    (∀ (p : Nat) (name : Bytes) (first : Nat),
      (ofText text)[p]? = some (.signature name first) →
      ((∃ s ∈ Span.extract text, s.first = first) ↔
        ∃ o q, PinnedBy (ofText text) p o ∧ Matching (ofText text) o q) ∧
      ∀ o q last, PinnedBy (ofText text) p o → Matching (ofText text) o q →
        (ofText text)[q]? = some (.brace .closing last) →
        (Span.extract text).filter (fun s => s.first = (first : Int)) =
          [Span.ofLines name first last]) ∧
    ∃ qs : List Nat, qs.Pairwise (· < ·) ∧
      List.Forall₂ (Bracketed (ofText text)) qs (Span.extract text) := by
  have single : Single (ofText text) := single_of_waiting (waiting_at_opening waiting)
  refine ⟨?_, ?_⟩
  · intro p name first signature
    have place : SignatureAt (ofText text) p := ⟨name, first, signature⟩
    have extracted := Span.extracted_of_signature signature
    refine ⟨⟨?_, ?_⟩, ?_⟩
    · rintro ⟨s, member, line⟩
      obtain ⟨q, _, _, closes, _⟩ := (extracted s).mp ⟨member, line⟩
      obtain ⟨o, pinned, matching⟩ := (closes_iff_matching single place).mp closes
      exact ⟨o, q, pinned, matching⟩
    · rintro ⟨o, q, pinned, matching⟩
      obtain ⟨last, closing⟩ := matching.2.2.1
      have closes := closes_of_matching single place pinned matching
      exact ⟨_, (extracted _).mpr ⟨q, last, closing, closes, rfl⟩⟩
    · intro o q last pinned matching closing
      have closes := closes_of_matching single place pinned matching
      have member := ((extracted _).mpr ⟨q, last, closing, closes, rfl⟩).1
      exact filter_first (Span.extract_starts text) member
  · obtain ⟨cs, recorded, listed⟩ := Span.extract_recorded text
    refine ⟨(cs.map Prod.fst).reverse, ?_, ?_⟩
    · exact List.pairwise_reverse.mpr (List.pairwise_map.mpr recorded.order)
    · rw [listed, List.forall₂_reverse_iff, List.forall₂_map_left_iff,
        List.forall₂_map_right_iff, List.forall₂_same]
      intro c member
      obtain ⟨_, p, closes, name, first, last, signature, closing, span⟩ :=
        recorded.spans c member
      obtain ⟨o, pinned, matching⟩ :=
        (closes_iff_matching single ⟨name, first, signature⟩).mp closes
      exact ⟨p, o, name, first, last, signature, pinned, matching, closing, span⟩

/-- A brace that closes nothing, a function with a block in it, and one left open. -/
def strayText : Bytes :=
  Bytes.of "\x7d\nfunction f() \x7b\n  if (x) \x7b\n  \x7d\n\x7d\nfunction g() \x7b"

theorem strayText_waiting (r : Reading) (reached : Reading.Reached (Text.lines strayText) r)
    (_ : r.AtOpening) : (r.scan.resolver.stack.filter fun c => c.depth.isNone).length ≤ 1 := by
  have few : ∀ i, i < (ofText strayText).length + 1 →
      ((Resolver.upTo (ofText strayText) i).stack.filter fun c => c.depth.isNone).length ≤ 1 := by
    decide +kernel
  obtain ⟨i, bound, resolver⟩ := Reading.resolver_upTo reached
  rw [resolver]
  exact few i (Nat.lt_succ_of_le bound)

theorem stray_brace_matched :
    Span.extract strayText = [Span.ofLines (Bytes.of "f") 2 5] ∧
      ∃ o q, PinnedBy (ofText strayText) 1 o ∧ Matching (ofText strayText) o q := by
  have brackets := extract_matches_brackets strayText strayText_waiting
  have all : Span.extract strayText = [Span.ofLines (Bytes.of "f") 2 5] := by decide +kernel
  have signature : (ofText strayText)[1]? = some (.signature (Bytes.of "f") 2) := by
    decide +kernel
  refine ⟨all, (brackets.1 1 _ _ signature).1.mp ⟨Span.ofLines (Bytes.of "f") 2 5, ?_, rfl⟩⟩
  rw [all]
  exact List.mem_singleton.mpr rfl

end SpanGauge
