import Mathlib.Logic.Relation
import SpanGauge.Proofs.Span.Event
import SpanGauge.Proofs.Span.Resolver

/-! A reading byte by byte: each line is entered once, and each of its bytes moves the
lexer and at once tells the resolver of the brace it may be. The readings that can be
reached are those between two bytes of some reading. -/
namespace SpanGauge

namespace Scan

/-- The start of a line: its signature is pending before any of its bytes is read. -/
def enter (s : Scan) (l : Bytes) : Scan := ⟨s.line + 1, s.lexer.atLineStart, s.opened l⟩

def byte (s : Scan) (before : Option UInt8) (b : UInt8) (after : Option UInt8) : Scan :=
  match s.lexer.step before b after with
  | (y, some brace) => ⟨s.line, y, s.resolver.brace s.line brace⟩
  | (y, none) => ⟨s.line, y, s.resolver⟩

def bytes (s : Scan) (before : Option UInt8) : Bytes → Scan
  | [] => s
  | b :: rest => (s.byte before b rest.head?).bytes (some b) rest

@[simp] theorem byte_line (s : Scan) (before : Option UInt8) (b : UInt8) (after : Option UInt8) :
    (s.byte before b after).line = s.line := by
  unfold byte
  split <;> rfl

theorem byte_lexer (s : Scan) (before : Option UInt8) (b : UInt8) (after : Option UInt8) :
    (s.byte before b after).lexer = (s.lexer.step before b after).1 := by
  unfold byte
  split <;> rename_i h <;> rw [h]

theorem byte_resolver (s : Scan) (before : Option UInt8) (b : UInt8) (after : Option UInt8) :
    (s.byte before b after).resolver =
      s.resolver.braces s.line (s.lexer.step before b after).2.toList := by
  unfold byte
  split <;> rename_i h <;> rw [h] <;> rfl

theorem bytes_eq_ahead (s : Scan) (before : Option UInt8) (bs : Bytes) :
    s.bytes before bs = ⟨s.line, (s.lexer.ahead before bs).1,
      s.resolver.braces s.line (s.lexer.ahead before bs).2⟩ := by
  induction bs generalizing s before with
  | nil => rfl
  | cons b rest ih =>
    rw [bytes, ih, Lexer.ahead_cons, byte_line, byte_lexer, byte_resolver]
    simp only [Resolver.braces, List.foldl_append]

theorem next_eq_bytes (s : Scan) (l : Bytes) : s.next l = (s.enter l).bytes none l := by
  rw [bytes_eq_ahead]
  rfl

end Scan

structure Reading where
  scan : Scan
  before : Option UInt8
  rest : Bytes
  later : List Bytes

namespace Reading

def start (ls : List Bytes) : Reading := ⟨{}, none, [], ls⟩

inductive Step : Reading → Reading → Prop where
  | byte (s : Scan) (before : Option UInt8) (b : UInt8) (rest : Bytes) (later : List Bytes) :
      Step ⟨s, before, b :: rest, later⟩ ⟨s.byte before b rest.head?, some b, rest, later⟩
  | line (s : Scan) (before : Option UInt8) (l : Bytes) (later : List Bytes) :
      Step ⟨s, before, [], l :: later⟩ ⟨s.enter l, none, l, later⟩

def Steps : Reading → Reading → Prop := Relation.ReflTransGen Step

def Reached (ls : List Bytes) (r : Reading) : Prop := Steps (start ls) r

theorem steps_rest (s : Scan) (before : Option UInt8) (rest : Bytes) (later : List Bytes) :
    ∃ last, Steps ⟨s, before, rest, later⟩ ⟨s.bytes before rest, last, [], later⟩ := by
  induction rest generalizing s before with
  | nil => exact ⟨before, .refl⟩
  | cons b rest ih =>
    obtain ⟨last, steps⟩ := ih (s.byte before b rest.head?) (some b)
    exact ⟨last, steps.head (.byte s before b rest later)⟩

theorem steps_later (s : Scan) (before : Option UInt8) (later : List Bytes) :
    ∃ last, Steps ⟨s, before, [], later⟩ ⟨s.lines later, last, [], []⟩ := by
  induction later generalizing s before with
  | nil => exact ⟨before, .refl⟩
  | cons l later ih =>
    obtain ⟨middle, first⟩ := steps_rest (s.enter l) none l later
    rw [← Scan.next_eq_bytes] at first
    obtain ⟨last, second⟩ := ih (s.next l) middle
    exact ⟨last, (first.trans second).head (.line s before l later)⟩

theorem reached_end (ls : List Bytes) :
    ∃ last, Reached ls ⟨({} : Scan).lines ls, last, [], []⟩ :=
  steps_later {} none ls

def emitted (r : Reading) : List Event :=
  match r.rest, r.later with
  | b :: rest, _ =>
    (r.scan.lexer.step r.before b rest.head?).2.toList.map fun b => .brace b r.scan.line
  | [], l :: _ => Event.ofHead r.scan.line l
  | [], [] => []

def events (r : Reading) : List Event :=
  (r.scan.lexer.ahead r.before r.rest).2.map (fun b => .brace b r.scan.line) ++
    Event.ofLines (r.scan.lexer.ahead r.before r.rest).1 r.scan.line r.later

theorem emitted_cases (r : Reading) : r.emitted = [] ∨ ∃ e, r.emitted = [e] := by
  unfold emitted
  split
  · rename_i b rest _
    cases (r.scan.lexer.step r.before b rest.head?).2 with
    | none => exact .inl rfl
    | some brace => exact .inr ⟨_, rfl⟩
  · unfold Event.ofHead
    split
    · exact .inr ⟨_, rfl⟩
    · exact .inl rfl
  · exact .inl rfl

theorem events_step {r t : Reading} (step : Step r t) :
    r.events = r.emitted ++ t.events ∧ t.scan.resolver = r.scan.resolver.run r.emitted := by
  cases step with
  | byte s before b rest later =>
    constructor
    · simp only [events, emitted, Lexer.ahead_cons, Scan.byte_lexer, Scan.byte_line,
        List.map_append, List.append_assoc]
    · simp only [emitted, Resolver.run_braces, Scan.byte_resolver]
  | line s before l later =>
    constructor
    · simp only [events, emitted, Lexer.ahead_nil, Event.ofLines_cons, Scan.enter,
        Lexer.line_eq_ahead, List.map_nil, List.nil_append, List.append_assoc]
    · exact Scan.opened_eq_run s l

/-- The resolver of a reading has been told a beginning of the events, and the rest is
still to come. -/
theorem events_reached {ls : List Bytes} {r : Reading} (reached : Reached ls r) :
    ∃ done, Event.ofLines {} 0 ls = done ++ r.events ∧
      r.scan.resolver = ({} : Resolver).run done := by
  induction reached with
  | refl => exact ⟨[], rfl, rfl⟩
  | tail _ step ih =>
    obtain ⟨done, all, resolver⟩ := ih
    obtain ⟨split, next⟩ := events_step step
    exact ⟨done ++ _, by rw [all, split, List.append_assoc],
      by rw [next, resolver, Resolver.run_append]⟩

theorem steps_event {r last : Reading} (steps : Steps r last) (ended : last.events = [])
    {sooner after : List Event} {e : Event} (split : r.events = sooner ++ e :: after) :
    ∃ t, Steps r t ∧ t.scan.resolver = r.scan.resolver.run sooner ∧ t.emitted = [e] := by
  induction steps using Relation.ReflTransGen.head_induction_on generalizing sooner with
  | refl => simp [ended] at split
  | @head r u step _ ih =>
    obtain ⟨parts, next⟩ := events_step step
    rw [split] at parts
    rcases emitted_cases r with none | ⟨f, one⟩
    · rw [none] at parts next
      obtain ⟨t, steps, resolver, emits⟩ := ih parts.symm
      exact ⟨t, steps.head step, by rw [resolver, next]; rfl, emits⟩
    · cases sooner with
      | nil =>
        rw [one] at parts
        cases (List.cons.inj parts).1
        exact ⟨r, .refl, rfl, one⟩
      | cons g sooner =>
        rw [one] at parts next
        obtain ⟨rfl, tail⟩ := List.cons.inj parts
        obtain ⟨t, steps, resolver, emits⟩ := ih tail.symm
        exact ⟨t, steps.head step, by rw [resolver, next]; rfl, emits⟩

theorem reached_event {ls : List Bytes} {sooner after : List Event} {e : Event}
    (split : Event.ofLines {} 0 ls = sooner ++ e :: after) :
    ∃ r, Reached ls r ∧ r.scan.resolver = ({} : Resolver).run sooner ∧ r.emitted = [e] := by
  obtain ⟨last, reached⟩ := reached_end ls
  exact steps_event reached rfl split

def AtOpening (r : Reading) : Prop :=
  ∃ b rest, r.rest = b :: rest ∧
    (r.scan.lexer.step r.before b rest.head?).2 = some .opening

theorem emitted_atOpening {r : Reading} :
    r.AtOpening ↔ ∃ line, r.emitted = [.brace .opening line] := by
  obtain ⟨s, before, bytes, later⟩ := r
  cases bytes with
  | nil =>
    constructor
    · rintro ⟨b, rest, none, _⟩
      cases none
    · rintro ⟨line, emits⟩
      cases later with
      | nil => cases emits
      | cons l later =>
        simp only [emitted, Event.ofHead] at emits
        split at emits
        · cases (List.cons.inj emits).1
        · cases emits
  | cons b rest =>
    constructor
    · rintro ⟨c, tail, same, opening⟩
      cases same
      exact ⟨s.line, by simp only [emitted, opening]; rfl⟩
    · rintro ⟨line, emits⟩
      refine ⟨b, rest, rfl, ?_⟩
      simp only [emitted] at emits
      cases h : (s.lexer.step before b rest.head?).2 with
      | none =>
        rw [h] at emits
        cases emits
      | some brace =>
        rw [h] at emits
        cases (List.cons.inj emits).1
        rfl

end Reading

end SpanGauge
