import SpanGauge.Proofs.Span.Reading
import SpanGauge.Proofs.Span.Tracking

/-! Extraction is lexing first and pairing afterwards, and what becomes of each
signature of a text is what the pairing law says of its place among the events. -/
namespace SpanGauge

open Event

theorem Event.place_unique {text name name' : Bytes} {line p p' : Nat}
    (h : (ofText text)[p]? = some (.signature name line))
    (h' : (ofText text)[p']? = some (.signature name' line)) : p = p' := by
  rcases Nat.lt_trichotomy p p' with lt | same | gt
  · exact absurd (line_lt lt h h') (Nat.lt_irrefl line)
  · exact same
  · exact absurd (line_lt gt h' h) (Nat.lt_irrefl line)

theorem Event.spanOf_unique {es : List Event} {p p' q : Nat} {s s' : Span}
    (h : SpanOf es p q s) (h' : SpanOf es p' q s') : s = s' := by
  obtain ⟨closes, name, first, last, signature, closing, rfl⟩ := h
  obtain ⟨closes', name', first', last', signature', closing', rfl⟩ := h'
  cases closes_unique closes closes'
  cases Option.some.inj (signature.symm.trans signature')
  cases Option.some.inj (closing.symm.trans closing')
  rfl

theorem Span.extract_recorded (text : Bytes) :
    ∃ cs, Recorded (ofText text) (ofText text).length (({} : Resolver).run (ofText text)) cs ∧
      Span.extract text = (cs.map Prod.snd).reverse := by
  obtain ⟨_, cs, recorded⟩ := Resolver.upTo_follows (ofText text) _ (Nat.le_refl _)
  rw [Resolver.upTo_length] at recorded
  exact ⟨cs, recorded, by rw [Span.extract_eq_run, recorded.closed]⟩

theorem Span.mem_extract_iff {text : Bytes} {s : Span} :
    s ∈ Span.extract text ↔ ∃ p q, SpanOf (ofText text) p q s := by
  obtain ⟨cs, recorded, listed⟩ := Span.extract_recorded text
  rw [listed, List.mem_reverse, List.mem_map]
  constructor
  · rintro ⟨c, member, rfl⟩
    obtain ⟨_, p, span⟩ := recorded.spans c member
    exact ⟨p, c.1, span⟩
  · rintro ⟨p, q, span⟩
    obtain ⟨closes, name, first, last, _, closing, _⟩ := id span
    obtain ⟨bound, _⟩ := List.getElem?_eq_some_iff.mp closing
    obtain ⟨c, member, rfl⟩ := recorded.complete p q bound closes
    obtain ⟨_, p', span'⟩ := recorded.spans c member
    exact ⟨c, member, spanOf_unique span' span⟩

theorem Span.extracted_of_signature {text name : Bytes} {first p : Nat}
    (signature : (ofText text)[p]? = some (.signature name first)) (s : Span) :
    (s ∈ Span.extract text ∧ s.first = first) ↔
      ∃ q last, (ofText text)[q]? = some (.brace .closing last) ∧
        Closes (ofText text) p q ∧ s = Span.ofLines name first last := by
  rw [Span.mem_extract_iff]
  constructor
  · rintro ⟨⟨p', q, closes, name', first', last, signature', closing, rfl⟩, same⟩
    have line : first' = first := Int.ofNat.inj same
    subst line
    cases place_unique signature' signature
    cases Option.some.inj (signature'.symm.trans signature)
    exact ⟨q, last, closing, closes, rfl⟩
  · rintro ⟨q, last, closing, closes, rfl⟩
    exact ⟨⟨p, q, closes, name, first, last, signature, closing, rfl⟩, rfl⟩

/-- The pending entry of a signature at a moment after it: it is there until a brace has
closed it, and its depth is the one to which it is pinned. -/
theorem Resolver.pending_of_signature {text name : Bytes} {first p i : Nat}
    (signature : (ofText text)[p]? = some (.signature name first)) (after : p < i)
    (bound : i ≤ (ofText text).length) :
    ((∃ c ∈ (upTo (ofText text) i).pending, c.first = first) ↔ Unclosed (ofText text) p i) ∧
      ∀ c ∈ (upTo (ofText text) i).pending, c.first = first →
        c.name = name ∧ ∀ d, c.depth = some d ↔ PinnedTo (ofText text) p i d := by
  obtain ⟨⟨ms, tracked⟩, _⟩ := upTo_follows (ofText text) i bound
  -- the entry of a signature with this line stands for the place at hand
  have place : ∀ m ∈ ms, m.2.first = first → m.1 = p ∧ m.2.name = name := by
    intro m member line
    have here := (tracked.entries m member).1
    rw [line] at here
    have same := place_unique here signature
    subst same
    cases Option.some.inj (here.symm.trans signature)
    exact ⟨rfl, rfl⟩
  rw [tracked.pending]
  refine ⟨⟨?_, ?_⟩, ?_⟩
  · rintro ⟨c, member, line⟩
    obtain ⟨m, hm, rfl⟩ := List.mem_map.mp member
    have own := (place m hm line).1
    exact own ▸ (tracked.unclosed hm).2.2
  · intro unclosed
    obtain ⟨m, hm, rfl⟩ := (tracked.places p).mpr ⟨after, ⟨name, first, signature⟩, unclosed⟩
    have here := (tracked.entries m hm).1
    cases Option.some.inj (here.symm.trans signature)
    exact ⟨m.2, List.mem_map_of_mem hm, rfl⟩
  · intro c member line
    obtain ⟨m, hm, rfl⟩ := List.mem_map.mp member
    obtain ⟨rfl, named⟩ := place m hm line
    exact ⟨named, (tracked.entries m hm).2⟩

theorem Reading.resolver_upTo {ls : List Bytes} {r : Reading} (reached : Reached ls r) :
    ∃ i, i ≤ (ofLines {} 0 ls).length ∧
      r.scan.resolver = Resolver.upTo (ofLines {} 0 ls) i := by
  obtain ⟨done, all, resolver⟩ := events_reached reached
  refine ⟨done.length, ?_, ?_⟩
  · rw [all, List.length_append]
    exact Nat.le_add_right _ _
  · rw [Resolver.upTo, all, List.take_left, resolver]

theorem Reading.rises_of_events {ls : List Bytes}
    (high : ∀ i ≤ (ofLines {} 0 ls).length, 0 ≤ (Resolver.upTo (ofLines {} 0 ls) i).depth)
    (r : Reading) (reached : Reached ls r) : 0 ≤ r.scan.resolver.depth := by
  obtain ⟨i, bound, resolver⟩ := resolver_upTo reached
  rw [resolver]
  exact high i bound

/-- Extraction is the resolver's run over the lexer's braces merged with the signatures.
In that run a signature is pinned by the first opening brace after it, and it is emitted
exactly when some closing brace is free for it; the first such brace gives its last line. -/
theorem extract_two_stage (text : Bytes) :
    Span.extract text = (({} : Resolver).run (Event.merge
      ((Signature.listed 0 (Text.lines text)).map Event.ofSignature)
      ((({} : Lexer).braces 0 (Text.lines text)).map Event.ofBrace))).closed.reverse ∧
    (∀ r, Reading.Reached (Text.lines text) r →
      ∃ i, i ≤ (ofText text).length ∧ r.scan.resolver = Resolver.upTo (ofText text) i) ∧
    ∀ p name first, (ofText text)[p]? = some (.signature name first) →
      (∀ i, p < i → i ≤ (ofText text).length →
        ((∃ c ∈ (Resolver.upTo (ofText text) i).pending, c.first = first) ↔
          Unclosed (ofText text) p i) ∧
        ∀ c ∈ (Resolver.upTo (ofText text) i).pending, c.first = first →
          c.name = name ∧ ∀ d, c.depth = some d ↔ PinnedTo (ofText text) p i d) ∧
      ∀ s, (s ∈ Span.extract text ∧ s.first = first) ↔
        ∃ q last, (ofText text)[q]? = some (.brace .closing last) ∧
          (Free (ofText text) p q ∧ ∀ k, k < q → ¬ Free (ofText text) p k) ∧
          s = Span.ofLines name first last := by
  refine ⟨Span.extract_eq_run text, fun r reached => Reading.resolver_upTo reached, ?_⟩
  intro p name first signature
  refine ⟨?_, Span.extracted_of_signature signature⟩
  intro i after bound
  exact Resolver.pending_of_signature signature after bound

/-- Two signatures that share a brace: the later one is closed by the first block's end,
the other by an unrelated block. -/
def sharedText : Bytes := Bytes.of "function a()\nfunction b() \x7b\n\x7d\n\x7b\n\x7d"

theorem shared_depth_leftover :
    Span.extract sharedText =
      [Span.ofLines (Bytes.of "b") 2 3, Span.ofLines (Bytes.of "a") 1 5] ∧
    ∃ q, (ofText sharedText)[q]? = some (.brace .closing 5) ∧
      Free (ofText sharedText) 0 q ∧ ∀ k, k < q → ¬ Free (ofText sharedText) 0 k := by
  have all : Span.extract sharedText =
      [Span.ofLines (Bytes.of "b") 2 3, Span.ofLines (Bytes.of "a") 1 5] := by decide +kernel
  have signature : (ofText sharedText)[0]? = some (.signature (Bytes.of "a") 1) := by
    decide +kernel
  refine ⟨all, ?_⟩
  obtain ⟨q, last, closing, free, same⟩ :=
    (((extract_two_stage sharedText).2.2 0 _ _ signature).2
      (Span.ofLines (Bytes.of "a") 1 5)).mp ⟨by simp [all], rfl⟩
  have line : last = 5 := Int.ofNat.inj (congrArg Span.last same).symm
  exact ⟨q, line ▸ closing, free⟩

end SpanGauge
