import SpanGauge.Proofs.Span.Reading

/-! Comment delimiters are two bytes of one line. A reading carries the skip mark only between
the two, so neither at the end of a line nor at the start of one; and of two delimiters in a run
the later begins behind the earlier, so that they share no byte. -/
namespace SpanGauge

namespace Reading

def Delimits (r : Reading) : Prop :=
  ∃ b rest, r.rest = b :: rest ∧
    (r.scan.lexer.step r.before b rest.head?).1.mode.isComment ≠ r.scan.lexer.mode.isComment

/-- The two bytes of the delimiter that comes next. A byte is told by its line and by the number
of bytes that the line has from there on. -/
def pair (r : Reading) : List (Nat × Nat) :=
  [(r.scan.line, r.rest.length), (r.scan.line, r.rest.length - 1)]

def Between (r : Reading) : Prop :=
  ∃ b c rest, r.before = some b ∧ r.rest = c :: rest ∧ Lexer.Delimiter b c r.scan.lexer

def Marked (r : Reading) : Prop := r.scan.lexer.skip = true → r.Between

theorem byte_cases (s : Scan) (before : Option UInt8) (b : UInt8) (rest : Bytes)
    (later : List Bytes) :
    Between ⟨s.byte before b rest.head?, some b, rest, later⟩ ∨
      (s.byte before b rest.head?).lexer.skip = false ∧
        ¬ Delimits ⟨s, before, b :: rest, later⟩ := by
  rw [Scan.byte_lexer]
  obtain ⟨c, second, delimiter⟩ | ⟨clear, same⟩ := s.lexer.step_cases before b rest.head?
  · obtain ⟨more, rfl⟩ := List.head?_eq_some_iff.mp second
    refine .inl ⟨b, c, more, rfl, rfl, ?_⟩
    rw [Scan.byte_lexer]
    exact delimiter
  · refine .inr ⟨clear, ?_⟩
    rintro ⟨_, _, next, crosses⟩
    cases next
    exact crosses same

theorem marked_step {r t : Reading} (marked : Marked r) (step : Step r t) : Marked t := by
  intro skips
  cases step with
  | byte s before b rest later =>
    rcases byte_cases s before b rest later with between | ⟨clear, _⟩
    · exact between
    · cases clear.symm.trans skips
  | line s before l later =>
    -- the mark would have been set at the end of the line before
    have earlier : s.lexer.skip = true := (Lexer.atLineStart_skip s.lexer).symm.trans skips
    obtain ⟨_, _, _, _, ended, _⟩ := marked earlier
    cases ended

theorem marked_reached {ls : List Bytes} {r : Reading} (reached : Reached ls r) : Marked r := by
  induction reached with
  | refl => exact fun skips => nomatch skips
  | tail _ step ih => exact marked_step ih step

theorem Marked.clear_of_end {r : Reading} (marked : Marked r) (ended : r.rest = []) :
    r.scan.lexer.skip = false := by
  rw [← Bool.not_eq_true]
  intro skips
  obtain ⟨_, _, _, _, next, _⟩ := marked skips
  cases ended.symm.trans next

theorem Marked.clear_of_fresh {r : Reading} (marked : Marked r) (fresh : r.before = none) :
    r.scan.lexer.skip = false := by
  rw [← Bool.not_eq_true]
  intro skips
  obtain ⟨_, _, _, last, _, _⟩ := marked skips
  cases fresh.symm.trans last

theorem between_of_delimits {r t : Reading} (delimits : r.Delimits) (step : Step r t) :
    t.Between ∧ t.scan.line = r.scan.line ∧ t.rest.length + 1 = r.rest.length := by
  cases step with
  | byte s before b rest later =>
    rcases byte_cases s before b rest later with between | ⟨_, none⟩
    · exact ⟨between, Scan.byte_line .., rfl⟩
    · exact absurd delimits none
  | line s before l later =>
    obtain ⟨_, _, next, _⟩ := delimits
    cases next

theorem exists_between {r : Reading} (delimits : r.Delimits) : ∃ t, Step r t ∧ t.Between := by
  have ⟨b, rest, next, _⟩ := delimits
  have step : Step r ⟨r.scan.byte r.before b rest.head?, some b, rest, r.later⟩ := by
    obtain ⟨s, before, _, later⟩ := r
    cases next
    exact .byte s before b rest later
  exact ⟨_, step, (between_of_delimits delimits step).1⟩

theorem Between.not_delimits {r : Reading} (between : r.Between) : ¬ r.Delimits := by
  rintro ⟨b, rest, next, crosses⟩
  obtain ⟨_, c, more, _, here, delimiter⟩ := between
  cases next.symm.trans here
  exact crosses (congrArg Lexer.Mode.isComment (delimiter.step_mode ..))

theorem step_unique : Relator.RightUnique Step := by
  intro r t u first second
  cases first <;> cases second <;> rfl

theorem steps_onward {r t : Reading} (steps : Steps r t) :
    r.scan.line < t.scan.line ∨
      r.scan.line = t.scan.line ∧ t.rest.length ≤ r.rest.length := by
  induction steps with
  | refl => exact .inr ⟨rfl, Nat.le_refl _⟩
  | tail _ step ih =>
    cases step with
    | byte s before b rest later =>
      simp only [Scan.byte_line, List.length_cons] at ih ⊢
      omega
    | line s before l later =>
      simp only [Scan.enter] at ih ⊢
      omega

theorem delimits_behind {r t : Reading} (steps : Steps r t) (first : r.Delimits)
    (second : t.Delimits) :
    r = t ∨ r.scan.line < t.scan.line ∨
      r.scan.line = t.scan.line ∧ t.rest.length + 2 ≤ r.rest.length := by
  rcases steps.cases_head with same | ⟨m, one, more⟩
  · exact .inl same
  · obtain ⟨between, line, left⟩ := between_of_delimits first one
    rcases more.cases_head with rfl | ⟨n, two, most⟩
    · exact absurd second between.not_delimits
    · have onward := steps_onward most
      obtain ⟨_, _, _, _, here, _⟩ := between
      cases two with
      | byte s before b rest later =>
        simp only [Scan.byte_line, List.length_cons] at onward line left
        omega
      | line s before l later => cases here

theorem pairs_apart {r t : Reading} (steps : Steps r t) (first : r.Delimits) (second : t.Delimits)
    {p : Nat × Nat} (here : p ∈ r.pair) (there : p ∈ t.pair) : r = t := by
  rcases delimits_behind steps first second with same | behind
  · exact same
  · simp only [pair, List.mem_cons, List.not_mem_nil, or_false] at here there
    rcases here with rfl | rfl <;> rcases there with same | same <;>
      simp only [Prod.mk.injEq] at same <;> omega

theorem delimits_unique {ls : List Bytes} {r t : Reading} (hr : Reached ls r) (ht : Reached ls t)
    (first : r.Delimits) (second : t.Delimits) {p : Nat × Nat} (here : p ∈ r.pair)
    (there : p ∈ t.pair) : r = t := by
  rcases hr.total_of_right_unique step_unique ht with onward | back
  · exact pairs_apart onward first second here there
  · exact (pairs_apart back second first there here).symm

end Reading

/-- A line that is begun with the skip mark clear is ended with it clear. In a run over any lines
the mark is set only where the second byte of a comment delimiter comes next: never at the end of
a line, nor before its first byte. Each delimiter has its two bytes on one line, and no byte
belongs to two delimiters. -/
theorem skip_mark_stays_on_line :
    (∀ (s : Scan) (l : Bytes), s.lexer.skip = false → (s.next l).lexer.skip = false) ∧
    ∀ (ls : List Bytes) (r : Reading), Reading.Reached ls r →
      (r.scan.lexer.skip = true → r.Between) ∧
      (r.rest = [] → r.scan.lexer.skip = false) ∧
      (r.before = none → r.scan.lexer.skip = false) ∧
      (r.Delimits → (∃ t, Reading.Step r t ∧ t.Between) ∧
        ∀ t, Reading.Reached ls t → t.Delimits → ∀ p ∈ r.pair, p ∈ t.pair → r = t) := by
  refine ⟨fun s l clear => Lexer.line_clear clear l, fun ls r reached => ?_⟩
  have marked := Reading.marked_reached reached
  refine ⟨marked, marked.clear_of_end, marked.clear_of_fresh, fun first => ?_⟩
  refine ⟨Reading.exists_between first, fun t other second p here there => ?_⟩
  exact Reading.delimits_unique reached other first second here there

/-- A comment, opened and closed, and a star: each star stands beside two slashes. -/
def crowdedLine : Bytes := Bytes.of "/*/*/*"

/- The second byte might begin the end of the comment, but it belongs to its start. -/
theorem crowdedLine_delimited :
    (({ lexer := ⟨.blockComment, false⟩ } : Scan).next crowdedLine).lexer.skip = false ∧
    ∃ r, Reading.Reached [crowdedLine] r ∧ r.Delimits ∧ r.pair = [(1, 6), (1, 5)] ∧
      r.scan.lexer.skip = false ∧ (∃ t, Reading.Step r t ∧ t.Between) ∧
      ∀ t, Reading.Reached [crowdedLine] t → t.Delimits → (1, 5) ∈ t.pair → r = t := by
  have reached : Reading.Reached [crowdedLine]
      ⟨({} : Scan).enter crowdedLine, none, crowdedLine, []⟩ := .single (.line _ _ _ _)
  have delimits : Reading.Delimits ⟨({} : Scan).enter crowdedLine, none, crowdedLine, []⟩ :=
    ⟨_, _, rfl, by decide⟩
  obtain ⟨-, -, fresh, delimiter⟩ := skip_mark_stays_on_line.2 _ _ reached
  obtain ⟨between, apart⟩ := delimiter delimits
  refine ⟨skip_mark_stays_on_line.1 _ _ rfl, _, reached, delimits, by decide, fresh rfl, between,
    ?_⟩
  intro t other second there
  exact apart t other second _ (by decide) there

end SpanGauge
