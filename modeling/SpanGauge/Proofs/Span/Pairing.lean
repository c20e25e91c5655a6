import Mathlib.Data.Nat.Find
import SpanGauge.Proofs.Span.Event
import SpanGauge.Proofs.Span.Resolver

/-! The law by which signatures and braces are paired, said on the places of a sequence
of events and without the resolver. A signature is pinned by the first opening brace
after it; a closing brace at that depth ends it unless a later signature pinned to the
same depth is still open. Any number of signatures may share a depth, and the depth may
be negative. -/
namespace SpanGauge

namespace Event

def isOpening : Event → Bool
  | .brace .opening _ => true
  | _ => false

def isClosing : Event → Bool
  | .brace .closing _ => true
  | _ => false

variable (es : List Event)

/-- Opening less closing braces among the first `i` events. -/
def depth (i : Nat) : Int := ((es.take i).countP isOpening : Int) - (es.take i).countP isClosing

def SignatureAt (p : Nat) : Prop := ∃ name line, es[p]? = some (.signature name line)
def OpeningAt (k : Nat) : Prop := ∃ line, es[k]? = some (.brace .opening line)
def ClosingAt (k : Nat) : Prop := ∃ line, es[k]? = some (.brace .closing line)

def PinnedBy (p o : Nat) : Prop :=
  p < o ∧ OpeningAt es o ∧ ∀ k, p < k → k < o → ¬ OpeningAt es k

/-- Before event `i` the first opening brace after `p` has come and has led to depth `d`. -/
def PinnedTo (p i : Nat) (d : Int) : Prop := ∃ o, o < i ∧ PinnedBy es p o ∧ depth es (o + 1) = d

/-- The closing brace at `q` comes at the depth to which the signature at `p` is pinned. -/
def Due (p q : Nat) : Prop := SignatureAt es p ∧ ClosingAt es q ∧ PinnedTo es p q (depth es q)

/-- The brace at `q` is due to `p`, and each later signature to which it is due as well
has been closed before. -/
def Free (p q : Nat) : Prop :=
  Due es p q ∧ ∀ p', p < p' → Due es p' q → ∃ k : Fin q, Free p' k
termination_by q

def Unclosed (p i : Nat) : Prop := ∀ k, k < i → ¬ Free es p k

/-- The brace at `q` ends the signature at `p`: it is the first that is free for it. -/
def Closes (p q : Nat) : Prop := Free es p q ∧ Unclosed es p q

def SpanOf (p q : Nat) (s : Span) : Prop :=
  Closes es p q ∧ ∃ name first last, es[p]? = some (.signature name first) ∧
    es[q]? = some (.brace .closing last) ∧ s = Span.ofLines name first last

variable {es}

theorem free_iff {p q : Nat} :
    Free es p q ↔ Due es p q ∧ ∀ p', p < p' → Due es p' q → ¬ Unclosed es p' q := by
  rw [Free]
  have same : ∀ p', (∃ k : Fin q, Free es p' k) ↔ ¬ Unclosed es p' q := by
    intro p'
    constructor
    · rintro ⟨k, free⟩ unclosed
      exact unclosed k k.isLt free
    · intro closed
      obtain ⟨k, h⟩ := Classical.not_forall.mp closed
      obtain ⟨lt, free⟩ := Classical.not_imp.mp h
      exact ⟨⟨k, lt⟩, Classical.not_not.mp free⟩
  simp only [same]

theorem depth_opening {i : Nat} (opening : OpeningAt es i) :
    depth es (i + 1) = depth es i + 1 := by
  obtain ⟨line, here⟩ := opening
  simp only [depth, List.take_add_one, here, Option.toList_some, List.countP_append]
  simp [isOpening, isClosing]
  omega

theorem depth_closing {i : Nat} (closing : ClosingAt es i) :
    depth es (i + 1) = depth es i - 1 := by
  obtain ⟨line, here⟩ := closing
  simp only [depth, List.take_add_one, here, Option.toList_some, List.countP_append]
  simp [isOpening, isClosing]
  omega

theorem depth_signature {i : Nat} (signature : SignatureAt es i) :
    depth es (i + 1) = depth es i := by
  obtain ⟨name, line, here⟩ := signature
  simp only [depth, List.take_add_one, here, Option.toList_some, List.countP_append]
  simp [isOpening, isClosing]

theorem exists_first {P : Nat → Prop} {n : Nat} (h : P n) :
    ∃ m, m ≤ n ∧ P m ∧ ∀ k, k < m → ¬ P k := by
  classical
  exact ⟨Nat.find ⟨n, h⟩, Nat.find_min' _ h, Nat.find_spec _, fun k lt => Nat.find_min _ lt⟩

theorem pinnedBy_unique {p o o' : Nat} (h : PinnedBy es p o) (h' : PinnedBy es p o') :
    o = o' := by
  rcases Nat.lt_trichotomy o o' with lt | same | gt
  · exact absurd h.2.1 (h'.2.2 o h.1 lt)
  · exact same
  · exact absurd h'.2.1 (h.2.2 o' h'.1 gt)

theorem pinnedTo_unique {p i j : Nat} {d d' : Int} (h : PinnedTo es p i d)
    (h' : PinnedTo es p j d') : d = d' := by
  obtain ⟨o, _, pinned, rfl⟩ := h
  obtain ⟨o', _, pinned', rfl⟩ := h'
  rw [pinnedBy_unique pinned pinned']

theorem exists_pinnedBy {p k : Nat} (lt : p < k) (opening : OpeningAt es k) :
    ∃ o, o ≤ k ∧ PinnedBy es p o := by
  obtain ⟨o, le, ⟨po, opening'⟩, first⟩ :=
    exists_first (P := fun j => p < j ∧ OpeningAt es j) ⟨lt, opening⟩
  exact ⟨o, le, po, opening', fun j pj jo oj => first j jo ⟨pj, oj⟩⟩

theorem pinnedTo_mono {p i j : Nat} {d : Int} (h : PinnedTo es p i d) (le : i ≤ j) :
    PinnedTo es p j d := by
  obtain ⟨o, lt, pinned⟩ := h
  exact ⟨o, Nat.lt_of_lt_of_le lt le, pinned⟩

theorem pinnedTo_succ {p i : Nat} {d : Int} (other : ¬ OpeningAt es i) :
    PinnedTo es p (i + 1) d ↔ PinnedTo es p i d := by
  constructor
  · rintro ⟨o, lt, pinned, depth⟩
    have ne : o ≠ i := by
      rintro rfl
      exact other pinned.2.1
    exact ⟨o, by omega, pinned, depth⟩
  · exact fun h => pinnedTo_mono h (Nat.le_succ i)

theorem Free.due {p q : Nat} (free : Free es p q) : Due es p q := (free_iff.mp free).1

theorem Due.lt {p q : Nat} (due : Due es p q) : p < q := by
  obtain ⟨_, _, o, lt, pinned, _⟩ := due
  exact Nat.lt_trans pinned.1 lt

theorem closes_unique {p p' q : Nat} (h : Closes es p q) (h' : Closes es p' q) : p = p' := by
  rcases Nat.lt_trichotomy p p' with lt | same | gt
  · exact absurd h'.2 ((free_iff.mp h.1).2 p' lt h'.1.due)
  · exact same
  · exact absurd h.2 ((free_iff.mp h'.1).2 p gt h.1.due)

theorem closes_place_unique {p q q' : Nat} (h : Closes es p q) (h' : Closes es p q') :
    q = q' := by
  rcases Nat.lt_trichotomy q q' with lt | same | gt
  · exact absurd h.1 (h'.2 q lt)
  · exact same
  · exact absurd h'.1 (h.2 q' gt)

theorem unclosed_succ {p i : Nat} :
    Unclosed es p (i + 1) ↔ Unclosed es p i ∧ ¬ Closes es p i := by
  constructor
  · intro h
    exact ⟨fun k lt => h k (by omega), fun closes => h i (Nat.lt_succ_self i) closes.1⟩
  · rintro ⟨before, here⟩ k lt free
    rcases Nat.lt_succ_iff_lt_or_eq.mp lt with lt | rfl
    · exact before k lt free
    · exact here ⟨free, before⟩

end Event

end SpanGauge
