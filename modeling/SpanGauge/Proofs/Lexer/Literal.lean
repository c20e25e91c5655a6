import SpanGauge.Proofs.Lexer.Segment
import SpanGauge.Span.Extract

/-! Literals on one line, with escapes of two bytes. The lexer looks at one byte before a
quote and not at pairs, so it takes the closing quote for an escaped one exactly when the
literal ends in an escaped backslash. -/
namespace SpanGauge

open Lexer (backslash)

/-- Bytes that are neither the quote nor a backslash, and escapes: a backslash and any byte.
The further bytes of a longer character are of the first kind. -/
inductive Quote.Content (q : Quote) : Bytes → Prop
  | nil : Content q []
  | ordinary {b : UInt8} {s : Bytes} (text : b ≠ q.byte) (unescaped : b ≠ backslash)
      (rest : Content q s) : Content q (b :: s)
  | escape (b : UInt8) {s : Bytes} (rest : Content q s) : Content q (backslash :: b :: s)

def Quote.literal (q : Quote) (content : Bytes) : Bytes := q.byte :: (content ++ [q.byte])

theorem Quote.byte_ne_backslash (q : Quote) : q.byte ≠ backslash := by
  cases q <;> decide

theorem Quote.byte_ne_comment (q : Quote) : q.byte ≠ Lexer.slash ∧ q.byte ≠ Lexer.star := by
  cases q <;> decide

namespace Lexer

/-- A stretch of a line brings no brace and leaves the lexer as `y`: from there the rest of
the line and the lines after it are read. -/
structure Leaves (x : Lexer) (front stretch : Bytes) (y : Lexer) : Prop where
  here : x.line (front ++ stretch) = (y, (x.line front).2)
  further : ∀ (rest : Bytes) (n : Nat) (ls : List Bytes),
    x.braces n ((front ++ (stretch ++ rest)) :: ls) =
        ((x.line front).2 ++ (y.ahead stretch.getLast? rest).2).map (fun b => (b, n + 1)) ++
          (y.ahead stretch.getLast? rest).1.braces (n + 1) ls ∧
      x.lines ((front ++ (stretch ++ rest)) :: ls) = (y.ahead stretch.getLast? rest).1.lines ls

theorem last_cons (before : Option UInt8) (b : UInt8) (u : Bytes) :
    (b :: u).getLast?.or before = u.getLast?.or (some b) := by
  rw [List.getLast?_cons]
  cases u.getLast? <;> rfl

theorem ahead_append (x : Lexer) (before : Option UInt8) (u : Bytes) {b : UInt8} (v : Bytes)
    (notSlash : b ≠ slash) (notStar : b ≠ star) :
    x.ahead before (u ++ b :: v) =
      (((x.ahead before u).1.ahead (u.getLast?.or before) (b :: v)).1,
        (x.ahead before u).2 ++ ((x.ahead before u).1.ahead (u.getLast?.or before) (b :: v)).2) := by
  induction u generalizing x before with
  | nil => simp
  | cons c u ih =>
    have seen : x.step before c (u ++ b :: v).head? = x.step before c u.head? := by
      cases u with
      | nil => exact step_after x before c notSlash notStar
      | cons d u => rfl
    rw [List.cons_append, ahead_cons, seen, ih, ahead_cons x before c u, last_cons]
    simp only [List.append_assoc]

theorem ahead_silent {x y : Lexer} {before : Option UInt8} {b : UInt8} {rest : Bytes}
    (moves : x.step before b rest.head? = (y, none)) :
    x.ahead before (b :: rest) = y.ahead (some b) rest := by
  rw [ahead_cons, moves]
  rfl

theorem ahead_content {q : Quote} {content : Bytes} (formed : q.Content content)
    (before : Option UInt8) (rest : Bytes) :
    ahead ⟨q.mode, false⟩ before (content ++ rest) =
      ahead ⟨q.mode, false⟩ (content.getLast?.or before) rest := by
  induction formed generalizing before with
  | nil => rfl
  | @ordinary b s text _ _ ih =>
    rw [List.cons_append, last_cons, ← ih]
    apply ahead_silent
    exact step_inside q _ fun same => absurd same text
  | @escape b s _ ih =>
    have opens : ahead ⟨q.mode, false⟩ before (backslash :: (b :: (s ++ rest))) =
        ahead ⟨q.mode, false⟩ (some backslash) (b :: (s ++ rest)) := by
      apply ahead_silent
      exact step_inside q _ fun same => absurd same.symm q.byte_ne_backslash
    rw [List.cons_append, List.cons_append, last_cons, last_cons, ← ih, opens]
    apply ahead_silent
    exact step_inside q _ fun _ => rfl

def behind (q : Quote) (content : Bytes) : Lexer :=
  if content.getLast? = some backslash then ⟨q.mode, false⟩ else ⟨.plain, false⟩

theorem ahead_literal {q : Quote} {content : Bytes} (formed : q.Content content)
    {before : Option UInt8} (unescaped : before ≠ some backslash) (rest : Bytes) :
    ahead ⟨.plain, false⟩ before (q.literal content ++ rest) =
      (behind q content).ahead (some q.byte) rest := by
  have split : q.literal content ++ rest = q.byte :: (content ++ q.byte :: rest) := by
    simp [Quote.literal]
  have own : some q.byte ≠ some backslash := fun same => q.byte_ne_backslash (Option.some.inj same)
  rw [split, ahead_silent (step_open q _ unescaped), ahead_content formed]
  apply ahead_silent
  unfold behind
  split
  · rename_i ends
    apply step_inside q
    intro _
    rw [ends]
    rfl
  · rename_i ends
    apply step_close q
    cases last : content.getLast? with
    | none => exact own
    | some b =>
      rw [last] at ends
      exact ends

theorem leaves_literal {x : Lexer} {front : Bytes} {q : Quote} {content : Bytes}
    (formed : q.Content content) (code : (x.line front).1 = ⟨.plain, false⟩)
    (unescaped : front.getLast? ≠ some backslash) :
    x.Leaves front (q.literal content) (behind q content) := by
  have read : ∀ rest, x.line (front ++ (q.literal content ++ rest)) =
      (((behind q content).ahead (some q.byte) rest).1,
        (x.line front).2 ++ ((behind q content).ahead (some q.byte) rest).2) := by
    intro rest
    have split : q.literal content ++ rest = q.byte :: (content ++ q.byte :: rest) := by
      simp [Quote.literal]
    have start := ahead_append x.atLineStart none front (content ++ q.byte :: rest)
      q.byte_ne_comment.1 q.byte_ne_comment.2
    rw [← split, ← line_eq_ahead, ← line_eq_ahead, code, Option.or_none,
      ahead_literal formed unescaped] at start
    exact start
  have last : (q.literal content).getLast? = some q.byte := by
    simp [Quote.literal, List.getLast?_cons]
  constructor
  · have ends := read []
    rw [List.append_nil, ahead_nil, List.append_nil] at ends
    exact ends
  · intro rest n ls
    rw [last, braces, read]
    exact ⟨rfl, congrArg (fun y => y.1.lines ls) (read rest)⟩

end Lexer

/-- A literal in code ends at its closing quote, and code goes on behind it, unless its
content ends in a backslash, which can only be an escaped one: then the closing quote counts
as escaped and the literal goes on. The literal brings no brace in either case. -/
theorem literal_ends_at_quote (q : Quote) (content front : Bytes) (x : Lexer)
    (formed : q.Content content) (code : (x.line front).1 = ⟨.plain, false⟩)
    (unescaped : front.getLast? ≠ some backslash) :
    (content.getLast? ≠ some backslash → x.Leaves front (q.literal content) ⟨.plain, false⟩) ∧
    (content.getLast? = some backslash → x.Leaves front (q.literal content) ⟨q.mode, false⟩) := by
  have leaves := Lexer.leaves_literal formed code unescaped
  constructor
  · intro other
    rw [Lexer.behind, if_neg other] at leaves
    exact leaves
  · intro ends
    rw [Lexer.behind, if_pos ends] at leaves
    exact leaves

def escapedContent : Bytes := Bytes.of "\\\\\\\"\x7b"

theorem escapedContent_ends :
    Quote.double.Content escapedContent ∧
    ({} : Lexer).braces 0 [Bytes.of "\x7b /\"\\\\\\\"\x7b\"/ \x7d", Bytes.of "\x7b"] =
      [(.opening, 1), (.closing, 1), (.opening, 2)] := by
  have formed : Quote.double.Content escapedContent :=
    .escape backslash (.escape Lexer.quotes (.ordinary (by decide) (by decide) .nil))
  have line : Bytes.of "\x7b /\"\\\\\\\"\x7b\"/ \x7d" =
      Bytes.of "\x7b /" ++ (Quote.double.literal escapedContent ++ Bytes.of "/ \x7d") := by decide
  have leaves := (literal_ends_at_quote .double escapedContent (Bytes.of "\x7b /") {} formed
    (by decide) (by decide)).1 (by decide)
  refine ⟨formed, ?_⟩
  rw [line, (leaves.further _ _ _).1]
  decide

/-- A literal that ends in an escaped backslash swallows the brace of the next line, and a
quote behind a backslash opens no literal. -/
theorem escapedBackslash_stays_open :
    Quote.double.Content [backslash, backslash] ∧ Quote.double.Content [byte '{'] ∧
    (({} : Lexer).line (Quote.double.literal [backslash, backslash])).1.mode = .double ∧
    Span.extract (Bytes.of "f() \x7b\n\"\\\\\"\n\x7d") = [] ∧
    (({} : Lexer).line [backslash]).1 = ⟨.plain, false⟩ ∧
    (({} : Lexer).line (backslash :: Quote.double.literal [byte '{'])).2 = [.opening] := by
  refine ⟨.escape backslash .nil, .ordinary (by decide) (by decide) .nil, by decide,
    by decide +kernel, by decide, by decide⟩

end SpanGauge
