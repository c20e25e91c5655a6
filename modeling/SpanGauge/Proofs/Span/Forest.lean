import Mathlib.Data.Set.Subsingleton
import SpanGauge.Proofs.Span.Matching
import SpanGauge.Proofs.Span.Atop

/-! Where each signature has an opening brace on its own line, the spans of a text form a
forest. No signature then waits over a line end, so a span reaches from one brace to the brace
that matches it, and matching braces never cross. -/
namespace SpanGauge

namespace Event

section Crossing

variable {es : List Event} {o q o' q' : Nat}

theorem matching_unique (h : Matching es o q) (h' : Matching es o q') : q = q' := by
  obtain ⟨_, lt, closing, level, least⟩ := h
  obtain ⟨_, lt', closing', level', least'⟩ := h'
  rcases Nat.lt_trichotomy q q' with sooner | same | later
  · exact absurd level (least' q lt sooner closing)
  · exact same
  · exact absurd level' (least q' lt' later closing')

/-- A pair of matching braces that opens later has either nothing of the earlier pair around it
or lies between its two braces. -/
theorem matching_apart (h : Matching es o q) (h' : Matching es o' q') (lt : o < o') :
    q < o' ∨ q' < q := by
  obtain ⟨_, _, closing, level, least⟩ := h
  obtain ⟨opening', _, _, _, least'⟩ := h'
  rcases Nat.lt_or_ge q o' with apart | inside
  · exact .inl apart
  · right
    have before : o' < q := by
      apply Nat.lt_of_le_of_ne inside
      rintro rfl
      exact not_opening_of_closing closing opening'
    have above : depth es (o + 1) ≤ depth es o' := by
      by_contra below
      obtain ⟨k, lower, upper, closing', level'⟩ :=
        exists_closing_at lt (Int.le_refl _) (Int.not_le.mp below)
      exact least k lower (Nat.lt_trans upper before) closing' level'
    -- on the way down to `q` the depth of the inner pair is left by a closing brace
    have deeper := depth_opening opening'
    obtain ⟨k, lower, upper, closing', level'⟩ :=
      exists_closing_at (d := depth es (o' + 1)) before (Int.le_refl _) (by omega)
    apply Nat.lt_of_le_of_lt _ upper
    by_contra beyond
    exact least' k lower (Nat.not_le.mp beyond) closing' level'

end Crossing

end Event

open Event

def OwnBraces (text : Bytes) : Prop :=
  ∀ (i : Nat) (l : Bytes) (sig : Signature), (Text.lines text)[i]? = some l →
    Signature.ofLine l = some sig →
      .opening ∈ ((({} : Scan).lines ((Text.lines text).take i)).lexer.line l).2

section OwnBraces

variable {text : Bytes}

theorem OwnBraces.opening (own : OwnBraces text) {p : Nat} {name : Bytes} {line : Nat}
    (signature : (ofText text)[p]? = some (.signature name line)) :
    ∃ k : Nat, (ofText text)[k]? = some (.brace .opening line) := by
  have listed : (name, line) ∈ Signature.listed 0 (Text.lines text) := by
    rcases mem_ofLines.mp (List.mem_of_getElem? signature) with ⟨s, member, same⟩ | ⟨b, _, same⟩
    · cases same
      exact member
    · cases same
  obtain ⟨i, l, sig, here, found, same⟩ := Signature.mem_listed.mp listed
  cases same
  have brace := own i l sig here found
  rw [Scan.lines_eq_run] at brace
  obtain ⟨bound, there⟩ := List.getElem?_eq_some_iff.mp here
  have split : Text.lines text =
      (Text.lines text).take i ++ l :: (Text.lines text).drop (i + 1) := by
    rw [← there, List.getElem_cons_drop, List.take_append_drop]
  apply List.mem_iff_getElem?.mp
  rw [ofText, split, ofLines_append, ofLines_cons, List.length_take_of_le (Nat.le_of_lt bound)]
  exact List.mem_append_right _ (List.mem_append_left _ (List.mem_append_right _
    (List.mem_map_of_mem brace)))

theorem OwnBraces.pinned (own : OwnBraces text) {p : Nat} {name : Bytes} {line : Nat}
    (signature : (ofText text)[p]? = some (.signature name line)) {o : Nat}
    (pinned : PinnedBy (ofText text) p o) : (ofText text)[o]? = some (.brace .opening line) := by
  obtain ⟨k, here⟩ := own.opening signature
  have after : p < k := by
    apply Nat.lt_of_not_le
    intro le
    rcases Nat.eq_or_lt_of_le le with same | lt
    · subst same
      cases Option.some.inj (here.symm.trans signature)
    · exact Nat.lt_irrefl line (line_lt lt here signature)
  obtain ⟨first, le, pinned'⟩ := exists_pinnedBy after ⟨line, here⟩
  cases pinnedBy_unique pinned pinned'
  obtain ⟨other, opening⟩ := pinned.2.1
  have low : line ≤ other := line_le (Nat.le_of_lt pinned.1) signature opening
  have high : other ≤ line := line_le le opening here
  rw [opening, Nat.le_antisymm high low]

theorem OwnBraces.single (own : OwnBraces text) : Single (ofText text) := by
  rintro o p p' ⟨name, line, signature⟩ ⟨name', line', signature'⟩ pinned pinned'
  have here := own.pinned signature pinned
  have there := own.pinned signature' pinned'
  cases Option.some.inj (here.symm.trans there)
  exact place_unique signature signature'

end OwnBraces

def Span.lines (s : Span) : Set Int := {i | s.first ≤ i ∧ i ≤ s.last}

theorem Span.lines_subset {s t : Span} (first : t.first ≤ s.first) (last : s.last ≤ t.last) :
    s.lines ⊆ t.lines :=
  fun _ ⟨lower, upper⟩ => ⟨Int.le_trans first lower, Int.le_trans upper last⟩

theorem Span.lines_apart {s t : Span} (apart : s.last ≤ t.first) :
    (s.lines ∩ t.lines).Subsingleton := by
  rintro i ⟨⟨_, upper⟩, lower, _⟩ j ⟨⟨_, upper'⟩, lower', _⟩
  omega

structure Framed (es : List Event) (s : Span) (o q : Nat) : Prop where
  matching : Matching es o q
  first : ∃ e, es[o]? = some e ∧ s.first = e.line
  last : ∃ e, es[q]? = some e ∧ s.last = e.line

theorem OwnBraces.framed {text : Bytes} (own : OwnBraces text) {s : Span}
    (member : s ∈ Span.extract text) : ∃ o q, Framed (ofText text) s o q := by
  obtain ⟨p, q, closes, name, first, last, signature, closing, rfl⟩ := Span.mem_extract_iff.mp member
  obtain ⟨o, pinned, matching⟩ :=
    (closes_iff_matching own.single ⟨name, first, signature⟩).mp closes
  exact ⟨o, q, matching, ⟨_, own.pinned signature pinned, rfl⟩, ⟨_, closing, rfl⟩⟩

section Framed

variable {text : Bytes} {s t : Span} {o q o' q' : Nat}

theorem Framed.apart (h : Framed (ofText text) s o q) (h' : Framed (ofText text) t o' q')
    (lt : o < o') : t.lines ⊆ s.lines ∨ (s.lines ∩ t.lines).Subsingleton := by
  obtain ⟨e, opening, first⟩ := h.first
  obtain ⟨f, closing, last⟩ := h.last
  obtain ⟨e', opening', first'⟩ := h'.first
  obtain ⟨f', closing', last'⟩ := h'.last
  rcases matching_apart h.matching h'.matching lt with ends | inside
  · right
    apply Span.lines_apart
    rw [last, first']
    exact Int.ofNat_le.mpr (line_le (Nat.le_of_lt ends) closing opening')
  · left
    apply Span.lines_subset
    · rw [first, first']
      exact Int.ofNat_le.mpr (line_le (Nat.le_of_lt lt) opening opening')
    · rw [last, last']
      exact Int.ofNat_le.mpr (line_le (Nat.le_of_lt inside) closing' closing)

theorem Framed.lines_eq (h : Framed (ofText text) s o q) (h' : Framed (ofText text) t o q') :
    s.lines = t.lines := by
  obtain ⟨e, opening, first⟩ := h.first
  obtain ⟨f, closing, last⟩ := h.last
  obtain ⟨e', opening', first'⟩ := h'.first
  obtain ⟨f', closing', last'⟩ := h'.last
  cases matching_unique h.matching h'.matching
  cases Option.some.inj (opening.symm.trans opening')
  cases Option.some.inj (closing.symm.trans closing')
  rw [Span.lines, Span.lines, first, last, first', last']

end Framed

/-- Any two spans of such a text are nested as ranges of lines, or they have at most one line in
common. -/
theorem spans_form_forest (text : Bytes) (own : OwnBraces text) :
    ∀ s ∈ Span.extract text, ∀ t ∈ Span.extract text,
      s.lines ⊆ t.lines ∨ t.lines ⊆ s.lines ∨ (s.lines ∩ t.lines).Subsingleton := by
  intro s hs t ht
  obtain ⟨o, q, framed⟩ := own.framed hs
  obtain ⟨o', q', framed'⟩ := own.framed ht
  rcases Nat.lt_trichotomy o o' with lt | same | gt
  · exact .inr (framed.apart framed' lt)
  · subst same
    exact .inl (framed.lines_eq framed').subset
  · rcases framed'.apart framed gt with inside | shared
    · exact .inl inside
    · rw [Set.inter_comm] at shared
      exact .inr (.inr shared)

/-- A function inside another, and one that opens on the line on which that one ends. -/
def sharedLineText : Bytes :=
  Bytes.of "function a() \x7b\n  f = () => \x7b\n  \x7d\nfunction b() \x7d \x7b\n\x7d"

theorem sharedLineText_braces : OwnBraces sharedLineText := by
  have every : ∀ i < (Text.lines sharedLineText).length, ∀ l ∈ (Text.lines sharedLineText)[i]?.toList,
      (Signature.ofLine l).isSome → .opening ∈
        ((({} : Scan).lines ((Text.lines sharedLineText).take i)).lexer.line l).2 := by
    decide +kernel
  intro i l sig here found
  obtain ⟨bound, _⟩ := List.getElem?_eq_some_iff.mp here
  exact every i bound l (by simp [here]) (by simp [found])

theorem sharedLineText_forest :
    Span.extract sharedLineText = [Span.ofLines (Bytes.of "f") 2 3, Span.ofLines (Bytes.of "a") 1 4,
      Span.ofLines (Bytes.of "b") 4 5] ∧
    ∀ s ∈ Span.extract sharedLineText, ∀ t ∈ Span.extract sharedLineText,
      s.lines ⊆ t.lines ∨ t.lines ⊆ s.lines ∨ (s.lines ∩ t.lines).Subsingleton :=
  ⟨by decide +kernel, spans_form_forest sharedLineText sharedLineText_braces⟩

end SpanGauge
