import SpanGauge.Proofs.Span.Compose

/-! Lines that lie wholly inside a comment or a template. Their braces count for nothing,
and what they leave behind is what an empty line leaves. A signature on such a line is
still met, because a line is matched without regard to the lines before it. -/
namespace SpanGauge

namespace Lexer

def modes (x : Lexer) (before : Option UInt8) : Bytes → List Mode
  | [] => [x.mode]
  | b :: rest => x.mode :: (x.step before b rest.head?).1.modes (some b) rest

def Inside (mode : Mode) (x : Lexer) (l : Bytes) : Prop :=
  ∀ m ∈ x.atLineStart.modes none l, m = mode

instance (mode : Mode) (x : Lexer) (l : Bytes) : Decidable (Inside mode x l) :=
  inferInstanceAs (Decidable (∀ m ∈ _, _))

theorem step_silent {x : Lexer} (kind : x.mode = .blockComment ∨ x.mode = .template)
    (before : Option UInt8) (b : UInt8) (after : Option UInt8) :
    (x.step before b after).2 = none := by
  obtain ⟨mode, skip⟩ := x
  cases skip with
  | true => rfl
  | false =>
    rcases kind with kind | kind
    · cases kind
      simp only [step]
      split_ifs <;> rfl
    · cases kind
      simp only [step]
      split_ifs <;> rfl

theorem ahead_inside {x : Lexer} {mode : Mode} (kind : mode = .blockComment ∨ mode = .template)
    {before : Option UInt8} {bs : Bytes} (inside : ∀ m ∈ x.modes before bs, m = mode) :
    (x.ahead before bs).2 = [] ∧ (x.ahead before bs).1.mode = mode := by
  induction bs generalizing x before with
  | nil => exact ⟨rfl, inside x.mode (by simp [modes])⟩
  | cons b rest ih =>
    have now : x.mode = mode := inside x.mode (by simp [modes])
    have silent := step_silent (now.symm ▸ kind) before b rest.head?
    have tail := ih fun m member => inside m (List.mem_cons_of_mem _ member)
    rw [ahead_cons, silent]
    exact tail

theorem line_inside {x : Lexer} (clear : x.skip = false) {mode : Mode}
    (kind : mode = .blockComment ∨ mode = .template) {l : Bytes} (inside : Inside mode x l) :
    x.line l = x.line [] := by
  have start : x.atLineStart.mode = mode := by
    cases l with
    | nil => exact inside _ (by simp [modes])
    | cons b l => exact inside _ (by simp [modes])
  obtain ⟨silent, stays⟩ := ahead_inside kind inside
  have same : (x.line l).1.mode = (x.line []).1.mode := stays.trans start.symm
  exact Prod.ext (eq_of_clear same (line_clear clear l) (line_clear clear [])) silent

end Lexer

/-- The text with line `i`, counted from zero, replaced by an empty line. -/
def Text.blank (text : Bytes) (i : Nat) : Bytes :=
  Bytes.join [Text.feed] ((Bytes.splitAt Text.feed text).set i [])

theorem Text.pieces_blank (text : Bytes) (i : Nat) :
    Text.pieces (Text.blank text i) = (Text.pieces text).set i [] := by
  have cut : (Text.blank text i).splitOn Text.feed = (text.splitOn Text.feed).set i [] := by
    rw [Text.blank, Bytes.splitAt_eq_splitOn]
    apply List.splitOn_intercalate
    · intro l member
      rcases List.mem_or_eq_of_mem_set member with member | rfl
      · exact Bytes.not_mem_of_splitOn member
      · simp
    · simp [List.splitOn_ne_nil]
  rw [Text.pieces, cut, List.map_set]
  rfl

namespace Event

theorem ofHead_empty (n : Nat) : ofHead n [] = [] := by
  have none : Signature.ofLine [] = none := by decide +kernel
  simp [ofHead, none]

theorem ofLines_inside {x : Lexer} (clear : x.skip = false) {mode : Lexer.Mode}
    (kind : mode = .blockComment ∨ mode = .template) {l : Bytes}
    (inside : Lexer.Inside mode x l) (n : Nat) (ls : List Bytes) :
    ofLines x n (l :: ls) = ofHead n l ++ ofLines x n ([] :: ls) := by
  rw [ofLines_cons, ofLines_cons, Lexer.line_inside clear kind inside, ofHead_empty,
    List.nil_append, List.append_assoc]

theorem ofLines_emptied {ls : List Bytes} {l : Bytes} {i : Nat} (here : ls[i]? = some l)
    {mode : Lexer.Mode} (kind : mode = .blockComment ∨ mode = .template)
    (inside : Lexer.Inside mode (({} : Lexer).lines (ls.take i)) l) :
    ∃ before after, ofLines {} 0 (ls.set i []) = before ++ after ∧
      ofLines {} 0 ls = before ++ (ofHead i l ++ after) := by
  obtain ⟨bound, there⟩ := List.getElem?_eq_some_iff.mp here
  have split : ls = ls.take i ++ l :: ls.drop (i + 1) := by
    rw [← there, List.getElem_cons_drop, List.take_append_drop]
  have place : 0 + (ls.take i).length = i := by
    rw [List.length_take_of_le (Nat.le_of_lt bound), Nat.zero_add]
  refine ⟨ofLines {} 0 (ls.take i),
    ofLines (({} : Lexer).lines (ls.take i)) i ([] :: ls.drop (i + 1)), ?_, ?_⟩
  · rw [List.set_eq_take_append_cons_drop, if_pos bound, ofLines_append, place]
  · rw [← ofLines_inside (Lexer.lines_clear rfl _) kind inside]
    conv_lhs => rw [split, ofLines_append, place]

theorem ofText_blank {text l : Bytes} {i : Nat} (here : (Text.lines text)[i]? = some l)
    {mode : Lexer.Mode} (kind : mode = .blockComment ∨ mode = .template)
    (inside : Lexer.Inside mode (({} : Lexer).lines ((Text.lines text).take i)) l) :
    ∃ before after, ofText (Text.blank text i) = before ++ after ∧
      ofText text = before ++ (ofHead i l ++ after) := by
  have some : text ≠ [] := by
    rintro rfl
    cases here
  rw [Text.lines_eq_pieces some] at here inside
  rw [ofText_eq_pieces, ofText_eq_pieces, Text.pieces_blank]
  exact ofLines_emptied here kind inside

end Event

open Event

/-- A line inside a comment or a template can be emptied if it has no signature. If it has
one, that signature is all that is lost: the other events of the text stay. -/
theorem inside_line_only_signs (text l : Bytes) (i : Nat) (mode : Lexer.Mode)
    (here : (Text.lines text)[i]? = some l) (kind : mode = .blockComment ∨ mode = .template)
    (inside : Lexer.Inside mode (({} : Lexer).lines ((Text.lines text).take i)) l) :
    (Signature.ofLine l = none → Span.extract (Text.blank text i) = Span.extract text) ∧
    ∀ sig, Signature.ofLine l = some sig → ∃ before after,
      ofText (Text.blank text i) = before ++ after ∧
      ofText text = before ++ .signature sig.name (i + 1) :: after := by
  obtain ⟨before, after, blanked, whole⟩ := ofText_blank here kind inside
  constructor
  · intro none
    simp only [ofHead, none, List.nil_append] at whole
    rw [Span.extract_eq_run, Span.extract_eq_run, blanked, whole]
  · intro sig signed
    simp only [ofHead, signed, List.cons_append, List.nil_append] at whole
    exact ⟨before, after, blanked, whole⟩

def templateText : Bytes := Bytes.of "f() \x7b `\n\x7d \\` $\x7bx\x7d\n` \x7d"

theorem templateText_emptied :
    Lexer.Inside .template (({} : Lexer).lines ((Text.lines templateText).take 1))
      (Bytes.of "\x7d \\` $\x7bx\x7d") ∧
    Text.blank templateText 1 = Bytes.of "f() \x7b `\n\n` \x7d" ∧
    Span.extract templateText = [Span.ofLines (Bytes.of "f") 1 3] ∧
    Span.extract (Text.blank templateText 1) = Span.extract templateText := by
  have inside : Lexer.Inside .template (({} : Lexer).lines ((Text.lines templateText).take 1))
      (Bytes.of "\x7d \\` $\x7bx\x7d") := by decide +kernel
  exact ⟨inside, by decide +kernel, by decide +kernel, (inside_line_only_signs templateText
    (Bytes.of "\x7d \\` $\x7bx\x7d") 1 .template (by decide +kernel) (.inr rfl) inside).1
    (by decide +kernel)⟩

def commentedText : Bytes := Bytes.of "/*\nfunction f() \x7b\n*/\n\x7b\n\x7d"

/-- The signature in the comment takes the braces after it, and an empty line does not. -/
theorem commentedText_extracted :
    (Text.lines commentedText)[1]? = some (Bytes.of "function f() \x7b") ∧
    Lexer.Inside .blockComment (({} : Lexer).lines ((Text.lines commentedText).take 1))
      (Bytes.of "function f() \x7b") ∧
    Text.blank commentedText 1 = Bytes.of "/*\n\n*/\n\x7b\n\x7d" ∧
    Span.extract commentedText = [Span.ofLines (Bytes.of "f") 2 5] ∧
    Span.extract (Text.blank commentedText 1) = [] := by
  refine ⟨by decide +kernel, by decide +kernel, by decide +kernel, by decide +kernel, ?_⟩
  decide +kernel

end SpanGauge
