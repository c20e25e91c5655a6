import SpanGauge.Proofs.Span.Inside

/-! Hidden text does not interfere. Two readings of lines that differ only inside comments and
literals, and there in no byte that could end or escape anything, are in the same mode at every
byte and leave the same state behind. -/
namespace SpanGauge

namespace Lexer

/-- The bytes to which a step looks in hidden text: quotes, the backslash, and the halves of
comment delimiters. -/
def markers : List UInt8 := [quote, quotes, backquote, backslash, star, slash]

def Similar (a b : Option UInt8) : Prop := ∀ d ∈ markers, a = some d ↔ b = some d

theorem Similar.refl (a : Option UInt8) : Similar a a := fun _ _ => Iff.rfl

theorem Similar.beq {a b : Option UInt8} (h : Similar a b) {d : UInt8} (member : d ∈ markers) :
    (a == some d) = (b == some d) := by
  rw [Bool.eq_iff_iff, beq_iff_eq, beq_iff_eq]
  exact h d member

theorem step_similar {before before' after after' : Option UInt8} (front : Similar before before')
    (behind : Similar after after') (x : Lexer) (b : UInt8) :
    x.step before b after = x.step before' b after' := by
  unfold step
  rw [front.beq (d := backslash) (by decide), behind.beq (d := slash) (by decide),
    behind.beq (d := star) (by decide)]

theorem step_hidden {x : Lexer} (clear : x.skip = false) (hidden : x.mode ≠ .plain) {b : UInt8}
    (text : b ∉ markers) (before after : Option UInt8) : x.step before b after = (x, none) := by
  obtain ⟨mode, skip⟩ := x
  cases clear
  have other : ∀ d ∈ markers, (b == d) = false := by
    intro d member
    rw [beq_eq_false_iff_ne]
    rintro rfl
    exact text member
  cases mode with
  | plain => exact absurd rfl hidden
  | lineComment => rfl
  | blockComment => simp [step, other star (by decide)]
  | single => simp [step, other quote (by decide)]
  | double => simp [step, other quotes (by decide)]
  | template => simp [step, other backquote (by decide)]

theorem step_skips {x : Lexer} {before : Option UInt8} {b : UInt8} {after : Option UInt8}
    (skips : (x.step before b after).1.skip = true) : after = some slash ∨ after = some star := by
  cases after with
  | none => exact absurd rfl (step_skip skips)
  | some c =>
    by_contra other
    rw [not_or] at other
    rw [step_after x before b (fun same => other.1 (congrArg some same))
      (fun same => other.2 (congrArg some same)), step_last_clear] at skips
    cases skips

/-- Two stretches of one length that differ only where the lexer reads the first one as hidden
text, and only in bytes that mark nothing. -/
structure Masked (x : Lexer) (before : Option UInt8) (l m : Bytes) : Prop where
  length : l.length = m.length
  hidden : ∀ i : Nat, l[i]? ≠ m[i]? → (x.modes before l)[i]? ≠ some Mode.plain ∧
    ∀ d ∈ markers, l[i]? ≠ some d ∧ m[i]? ≠ some d

namespace Masked

variable {x : Lexer} {before : Option UInt8} {l m : Bytes}

theorem similar_head (masked : Masked x before l m) : Similar l.head? m.head? := by
  rw [List.head?_eq_getElem?, List.head?_eq_getElem?]
  by_cases same : l[0]? = m[0]?
  · rw [same]
    exact .refl _
  · obtain ⟨_, none⟩ := masked.hidden 0 same
    intro d member
    exact iff_of_false (none d member).1 (none d member).2

theorem tail {b c : UInt8} (masked : Masked x before (b :: l) (c :: m)) :
    Masked (x.step before b l.head?).1 (some b) l m where
  length := Nat.succ.inj masked.length
  hidden i ne := masked.hidden (i + 1) ne

theorem step_eq {before' : Option UInt8} {b c : UInt8} (masked : Masked x before (b :: l) (c :: m))
    (front : Similar before before') (due : x.skip = true → b = slash ∨ b = star) :
    x.step before b l.head? = x.step before' c m.head? := by
  by_cases same : b = c
  · rw [same] at masked ⊢
    exact step_similar front masked.tail.similar_head x c
  · obtain ⟨hidden, none⟩ := masked.hidden 0 (by simpa using same)
    have hb : b ∉ markers := fun member => (none b member).1 rfl
    have hc : c ∉ markers := fun member => (none c member).2 rfl
    have mode : x.mode ≠ .plain := fun plain => hidden (congrArg some plain)
    have clear : x.skip = false := by
      by_contra skips
      rcases due (by simpa using skips) with rfl | rfl
      · exact hb (by decide)
      · exact hb (by decide)
    rw [step_hidden clear mode hb, step_hidden clear mode hc]

end Masked

/-- In lock-step: the invariant is the lexer itself, neighbours that no step tells apart, and
that only a delimiter is ever skipped. -/
theorem ahead_masked {x : Lexer} {before before' : Option UInt8} {l m : Bytes}
    (masked : Masked x before l m) (front : Similar before before')
    (due : x.skip = true → l.head? = some slash ∨ l.head? = some star) :
    x.ahead before l = x.ahead before' m ∧ x.modes before l = x.modes before' m := by
  induction l generalizing x before before' m with
  | nil =>
    cases List.eq_nil_of_length_eq_zero masked.length.symm
    exact ⟨rfl, rfl⟩
  | cons b l ih =>
    cases m with
    | nil => cases masked.length
    | cons c m =>
      have step := masked.step_eq front fun skips => by simpa using due skips
      have neighbours : Similar (some b) (some c) := masked.similar_head
      have rest := ih masked.tail neighbours step_skips
      rw [step] at rest
      constructor
      · rw [ahead_cons, ahead_cons, step, rest.1]
      · simp only [modes, step, rest.2]

end Lexer

def Scan.pass (s : Scan) (l : Bytes) : Scan :=
  ⟨s.line, (s.lexer.line l).1, s.resolver.braces s.line (s.lexer.line l).2⟩

theorem Scan.next_eq_pass (s : Scan) (l : Bytes) :
    s.next l = Scan.pass ⟨s.line + 1, s.lexer, s.opened l⟩ l := rfl

/-- From any state that skips nothing, with any depth and any pending signatures, two lines that
differ only in hidden text, markers apart, are met in the same modes byte by byte and leave the
same state: line, lexer, depth, pending signatures and closed spans. -/
theorem hidden_text_does_not_interfere (s : Scan) (l m : Bytes) (clear : s.lexer.skip = false)
    (masked : Lexer.Masked s.lexer.atLineStart none l m) :
    s.pass l = s.pass m ∧
      s.lexer.atLineStart.modes none l = s.lexer.atLineStart.modes none m := by
  have due : s.lexer.atLineStart.skip = true →
      l.head? = some Lexer.slash ∨ l.head? = some Lexer.star := by
    intro skips
    unfold Lexer.atLineStart at skips
    split at skips <;> simp [clear] at skips
  obtain ⟨same, modes⟩ := Lexer.ahead_masked masked (.refl none) due
  refine ⟨?_, modes⟩
  unfold Scan.pass
  rw [Lexer.line_eq_ahead, Lexer.line_eq_ahead, same]

/-- A scan in a template, with a function still open around it. -/
def templateScan : Scan where
  line := 3
  lexer := ⟨.template, false⟩
  resolver := { depth := 1, pending := [⟨Bytes.of "f", 1, some 1⟩] }

def templateLine : Bytes := Bytes.of "\x7bx` \x7d // \x7d"

def templateLine' : Bytes := Bytes.of "\x7d\x7d` \x7d // \x7b"

theorem templateLine_masked :
    Lexer.Masked templateScan.lexer.atLineStart none templateLine templateLine' := by
  have length : templateLine.length = templateLine'.length := by decide +kernel
  have modes : ∀ i < templateLine.length, templateLine[i]? ≠ templateLine'[i]? →
      (templateScan.lexer.atLineStart.modes none templateLine)[i]? ≠ some .plain := by
    decide +kernel
  have bytes : ∀ i < templateLine.length, ∀ d ∈ Lexer.markers,
      templateLine[i]? ≠ templateLine'[i]? →
        templateLine[i]? ≠ some d ∧ templateLine'[i]? ≠ some d := by
    decide +kernel
  refine ⟨length, ?_⟩
  intro i differ
  rcases Nat.lt_or_ge i templateLine.length with bound | beyond
  · exact ⟨modes i bound differ, fun d member => bytes i bound d member differ⟩
  · rw [List.getElem?_eq_none beyond, List.getElem?_eq_none (length ▸ beyond)] at differ
    exact absurd rfl differ

theorem templateLine_read :
    templateScan.pass templateLine = templateScan.pass templateLine' ∧
      (templateScan.pass templateLine).resolver.closed = [Span.ofLines (Bytes.of "f") 1 3] :=
  ⟨(hidden_text_does_not_interfere _ _ _ rfl templateLine_masked).1, by decide +kernel⟩

end SpanGauge
