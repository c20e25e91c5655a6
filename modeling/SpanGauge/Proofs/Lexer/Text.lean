import SpanGauge.Proofs.Lexer.Run
import SpanGauge.Proofs.Text.Lines

/-! The lexer on an undivided text. A line feed ends a line comment and hides the byte
before it; a carriage return is like any other byte without meaning. The braces and the
last state are those of the lexer on the lines. -/
namespace SpanGauge.Lexer

def through (x : Lexer) (before : Option UInt8) (n : Nat) : Bytes → Lexer × List (Brace × Nat)
  | [] => (x, [])
  | b :: rest =>
    if b = Text.feed then x.atLineStart.through none (n + 1) rest
    else
      let r := (x.step before b rest.head?).1.through (some b) n rest
      (r.1, (x.step before b rest.head?).2.toList.map (fun brace => (brace, n)) ++ r.2)

theorem step_carriage {x : Lexer} (clear : x.skip = false) (before after : Option UInt8) :
    x.step before Text.carriage after = (x, none) := by
  obtain ⟨mode, skip⟩ := x
  cases clear
  cases mode <;> rfl

theorem ahead_carriage (x : Lexer) (before : Option UInt8) (l : Bytes)
    (clear : x.skip = true → l ≠ []) :
    x.ahead before (l ++ [Text.carriage]) = x.ahead before l := by
  induction l generalizing x before with
  | nil =>
    have unset : x.skip = false := by
      cases h : x.skip with
      | false => rfl
      | true => exact absurd rfl (clear h)
    simp [ahead_cons, step_carriage unset]
  | cons b rest ih =>
    have seen : x.step before b (rest ++ [Text.carriage]).head? = x.step before b rest.head? := by
      cases rest with
      | nil => exact step_after x before b (by decide) (by decide)
      | cons c rest => rfl
    rw [List.cons_append, ahead_cons, ahead_cons, seen, ih]
    rintro skips rfl
    exact step_skip skips rfl

theorem line_dropTrail {x : Lexer} (clear : x.skip = false) (l : Bytes) :
    x.line (Bytes.dropTrail l [Text.carriage]) = x.line l := by
  rcases Bytes.dropTrail_single l Text.carriage with ⟨m, rfl, dropped⟩ | same
  · rw [dropped, line_eq_ahead, line_eq_ahead, ahead_carriage]
    intro skips
    simp [clear] at skips
  · rw [same]

theorem lines_dropTrail {x : Lexer} (clear : x.skip = false) (n : Nat) (ls : List Bytes) :
    x.lines (ls.map fun l => Bytes.dropTrail l [Text.carriage]) = x.lines ls ∧
      x.braces n (ls.map fun l => Bytes.dropTrail l [Text.carriage]) = x.braces n ls := by
  induction ls generalizing x n with
  | nil => exact ⟨rfl, rfl⟩
  | cons l ls ih =>
    have tail := ih (line_clear clear l) (n + 1)
    constructor
    · simpa only [lines, List.map_cons, List.foldl_cons, line_dropTrail clear] using tail.1
    · simp only [braces, List.map_cons, line_dropTrail clear, tail.2]

theorem through_eq_pieces (x : Lexer) (before : Option UInt8) (n : Nat) (text : Bytes) :
    ∃ l ls, text.splitOn Text.feed = l :: ls ∧
      x.through before n text =
        ((x.ahead before l).1.lines ls,
          (x.ahead before l).2.map (fun b => (b, n)) ++ (x.ahead before l).1.braces n ls) := by
  induction text generalizing x before n with
  | nil => exact ⟨[], [], rfl, rfl⟩
  | cons b rest ih =>
    by_cases feeds : b = Text.feed
    · obtain ⟨l, ls, pieces, same⟩ := ih x.atLineStart none (n + 1)
      refine ⟨[], l :: ls, ?_, ?_⟩
      · simp [List.splitOn_cons_eq_if_modifyHead, feeds, pieces]
      · simp only [through, feeds, if_true, same, ahead_nil, List.map_nil, List.nil_append]
        rfl
    · obtain ⟨l, ls, pieces, same⟩ := ih (x.step before b rest.head?).1 (some b) n
      -- a line feed after the byte is as good as the end of the line
      have seen : x.step before b l.head? = x.step before b rest.head? := by
        cases rest with
        | nil =>
          cases pieces
          rfl
        | cons c rest =>
          by_cases h : c = Text.feed
          · simp only [List.splitOn_cons_eq_if_modifyHead, h, beq_self_eq_true, if_true] at pieces
            cases (List.cons.inj pieces).1
            subst h
            exact (step_after x before b (by decide) (by decide)).symm
          · obtain ⟨m, ms, first⟩ := List.exists_cons_of_ne_nil
              (List.splitOn_ne_nil Text.feed rest)
            simp only [List.splitOn_cons_eq_if_modifyHead, h, beq_iff_eq, if_false, first,
              List.modifyHead_cons] at pieces
            cases (List.cons.inj pieces).1
            rfl
      refine ⟨b :: l, ls, ?_, ?_⟩
      · simp [List.splitOn_cons_eq_if_modifyHead, feeds, pieces]
      · simp only [through, feeds, if_false, same, ahead_cons, seen, List.map_append,
          List.append_assoc]

/-- The lexer on the lines of a text does what it does on the text itself. -/
theorem through_eq_lines (text : Bytes) :
    ({} : Lexer).through none 1 text =
      (({} : Lexer).lines (Text.lines text), ({} : Lexer).braces 0 (Text.lines text)) := by
  cases text with
  | nil => rfl
  | cons b rest =>
    obtain ⟨l, ls, pieces, same⟩ := through_eq_pieces {} none 1 (b :: rest)
    have trimmed := lines_dropTrail (x := {}) rfl 0 (l :: ls)
    rw [Text.lines_of_ne_nil (List.cons_ne_nil b rest), pieces, trimmed.1, trimmed.2, same]
    rfl

end SpanGauge.Lexer
