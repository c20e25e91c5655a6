import Mathlib.Tactic.SplitIfs
import SpanGauge.Lexer

/-! The lexer over a stretch of bytes, its braces in order and without an accumulator.
The skip mark is only set when a delimiter's second byte follows on the same line, so it
is never carried over a line end. -/
namespace SpanGauge.Lexer

def braces (x : Lexer) (n : Nat) : List Bytes → List (Brace × Nat)
  | [] => []
  | l :: ls => (x.line l).2.map (fun b => (b, n + 1)) ++ (x.line l).1.braces (n + 1) ls

def lines (x : Lexer) (ls : List Bytes) : Lexer := ls.foldl (fun x l => (x.line l).1) x

def ahead (x : Lexer) (before : Option UInt8) (bs : Bytes) : Lexer × List Brace :=
  ((x.runOn before [] bs).1, (x.runOn before [] bs).2.reverse)

theorem line_eq_ahead (x : Lexer) (l : Bytes) : x.line l = x.atLineStart.ahead none l := rfl

theorem runOn_found (x : Lexer) (before : Option UInt8) (found : List Brace) (bs : Bytes) :
    x.runOn before found bs =
      ((x.runOn before [] bs).1, (x.runOn before [] bs).2 ++ found) := by
  induction bs generalizing x before found with
  | nil => rfl
  | cons b rest ih =>
    unfold runOn
    split
    · rename_i y brace _
      rw [ih y (some b) (brace :: found), ih y (some b) [brace]]
      simp
    · rename_i y _
      exact ih y (some b) found

@[simp] theorem ahead_nil (x : Lexer) (before : Option UInt8) : x.ahead before [] = (x, []) := rfl

theorem ahead_cons (x : Lexer) (before : Option UInt8) (b : UInt8) (rest : Bytes) :
    x.ahead before (b :: rest) =
      (((x.step before b rest.head?).1.ahead (some b) rest).1,
        (x.step before b rest.head?).2.toList ++
          ((x.step before b rest.head?).1.ahead (some b) rest).2) := by
  cases h : x.step before b rest.head? with
  | mk y brace =>
    cases brace with
    | none => simp only [ahead, runOn, h, Option.toList_none, List.nil_append]
    | some brace =>
      simp only [ahead, runOn, h]
      rw [runOn_found y (some b) [brace]]
      simp

/-- Of the byte after, a step only sees whether it can end a comment delimiter. -/
theorem step_after (x : Lexer) (before : Option UInt8) (b : UInt8) {c : UInt8}
    (notSlash : c ≠ slash) (notStar : c ≠ star) :
    x.step before b (some c) = x.step before b none := by
  have hs : (some c == some slash) = false := by simpa using notSlash
  have ht : (some c == some star) = false := by simpa using notStar
  simp only [step, hs, ht]
  rfl

def Mode.isComment : Mode → Bool
  | .lineComment => true
  | .blockComment => true
  | _ => false

inductive Delimiter : UInt8 → UInt8 → Lexer → Prop
  | line : Delimiter slash slash ⟨.lineComment, false⟩
  | opening : Delimiter slash star ⟨.blockComment, true⟩
  | closing : Delimiter star slash ⟨.plain, true⟩

/-- A byte either begins a delimiter, whose second byte is there, or it sets no mark and neither
begins nor ends a comment. -/
theorem step_cases (x : Lexer) (before : Option UInt8) (b : UInt8) (after : Option UInt8) :
    (∃ c, after = some c ∧ Delimiter b c (x.step before b after).1) ∨
      (x.step before b after).1.skip = false ∧
        (x.step before b after).1.mode.isComment = x.mode.isComment := by
  obtain ⟨mode, skip⟩ := x
  cases skip with
  | true => exact .inr ⟨rfl, rfl⟩
  | false =>
    simp only [step, Bool.false_eq_true, if_false]
    cases mode with
    | plain =>
      dsimp only
      split_ifs with line block
      · simp only [Bool.and_eq_true, beq_iff_eq] at line
        exact .inl ⟨slash, line.2, line.1 ▸ .line⟩
      · simp only [Bool.and_eq_true, beq_iff_eq] at block
        exact .inl ⟨star, block.2, block.1 ▸ .opening⟩
      all_goals exact .inr ⟨rfl, rfl⟩
    | blockComment =>
      dsimp only
      split_ifs with ends
      · simp only [Bool.and_eq_true, beq_iff_eq] at ends
        exact .inl ⟨slash, ends.2, ends.1 ▸ .closing⟩
      · exact .inr ⟨rfl, rfl⟩
    | lineComment => exact .inr ⟨rfl, rfl⟩
    | single => dsimp only; split_ifs <;> exact .inr ⟨rfl, rfl⟩
    | double => dsimp only; split_ifs <;> exact .inr ⟨rfl, rfl⟩
    | template => dsimp only; split_ifs <;> exact .inr ⟨rfl, rfl⟩

theorem Delimiter.step_mode {b c : UInt8} {x : Lexer} (delimiter : Delimiter b c x)
    (before after : Option UInt8) : (x.step before c after).1.mode = x.mode := by
  cases delimiter <;> rfl

theorem step_last_clear (x : Lexer) (before : Option UInt8) (b : UInt8) :
    (x.step before b none).1.skip = false := by
  obtain ⟨c, next, -⟩ | ⟨clear, -⟩ := step_cases x before b none
  · cases next
  · exact clear

theorem step_skip {x : Lexer} {before : Option UInt8} {b : UInt8} {after : Option UInt8}
    (skips : (x.step before b after).1.skip = true) : after ≠ none := by
  rintro rfl
  rw [step_last_clear] at skips
  cases skips

theorem ahead_clear (x : Lexer) (before : Option UInt8) (bs : Bytes)
    (clear : x.skip = true → bs ≠ []) : (x.ahead before bs).1.skip = false := by
  induction bs generalizing x before with
  | nil =>
    cases h : x.skip with
    | false => exact h
    | true => exact absurd rfl (clear h)
  | cons b rest ih =>
    rw [ahead_cons]
    apply ih
    rintro skips rfl
    exact step_skip skips rfl

@[simp] theorem atLineStart_skip (x : Lexer) : x.atLineStart.skip = x.skip := by
  unfold atLineStart
  split <;> rfl

theorem line_clear {x : Lexer} (clear : x.skip = false) (l : Bytes) :
    (x.line l).1.skip = false := by
  apply ahead_clear _ none l
  intro skips
  simp [clear] at skips

theorem line_fresh {x y : Lexer} (fresh : x.atLineStart = y.atLineStart) (l : Bytes) :
    x.line l = y.line l := by
  rw [line, fresh, line]

theorem fresh_of_mode {x : Lexer} (clear : x.skip = false)
    (mode : x.mode = .plain ∨ x.mode = .lineComment) :
    x.atLineStart = ({} : Lexer).atLineStart := by
  obtain ⟨m, skip⟩ := x
  cases clear
  rcases mode with mode | mode <;> cases mode <;> rfl

theorem lines_clear {x : Lexer} (clear : x.skip = false) (ls : List Bytes) :
    (x.lines ls).skip = false := by
  induction ls generalizing x with
  | nil => exact clear
  | cons l ls ih => exact ih (line_clear clear l)

theorem eq_of_clear {x y : Lexer} (mode : x.mode = y.mode) (hx : x.skip = false)
    (hy : y.skip = false) : x = y := by
  obtain ⟨m, skip⟩ := x
  obtain ⟨m', skip'⟩ := y
  cases mode
  cases hx
  cases hy
  rfl

end SpanGauge.Lexer
