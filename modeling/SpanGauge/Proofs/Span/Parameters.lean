import SpanGauge.Proofs.Lexer.Segment
import SpanGauge.Proofs.Signature.Call

/-! Functions with parameters in which braces occur. A signature waits for the next opening
brace, whether it opens the body or a pattern among the parameters: in the first case the
span ends with the body, in the second it ends on the first line. -/
namespace SpanGauge

open Event

namespace Brace

def weight : Brace → Int
  | opening => 1
  | closing => -1

def rise : List Brace → Int
  | [] => 0
  | b :: bs => b.weight + rise bs

def ofBytes (code : Bytes) : List Brace := code.filterMap ofByte?

theorem ofBytes_append (u v : Bytes) : ofBytes (u ++ v) = ofBytes u ++ ofBytes v :=
  List.filterMap_append

theorem rise_ofBytes (code : Bytes) :
    rise (ofBytes code) = (code.count (byte '{') : Int) - code.count (byte '}') := by
  induction code with
  | nil => rfl
  | cons b code ih =>
    unfold ofBytes at ih ⊢
    by_cases opens : b = byte '{'
    · have first : ofByte? b = some opening := by rw [opens]; rfl
      rw [List.filterMap_cons_some first, rise, ih, opens, List.count_cons_self,
        List.count_cons_of_ne (by decide)]
      simp only [weight]
      omega
    · by_cases closes : b = byte '}'
      · have first : ofByte? b = some closing := by rw [closes]; rfl
        rw [List.filterMap_cons_some first, rise, ih, closes, List.count_cons_self,
          List.count_cons_of_ne (by decide)]
        simp only [weight]
        omega
      · have first : ofByte? b = none := by simp [ofByte?, opens, closes]
        rw [List.filterMap_cons_none first, ih, List.count_cons_of_ne opens,
          List.count_cons_of_ne closes]

end Brace

def Lexer.delimiters : Bytes := [quote, quotes, backquote, slash, backslash]

/-- The text between the parentheses of a function: one line without parentheses, quotes,
slashes and backslashes, with as many closing as opening braces and never more. -/
structure Parameters (p : Bytes) : Prop where
  line : Text.feed ∉ p
  plain : ∀ b ∈ p, b ∉ Lexer.delimiters ∧ b ≠ byte '(' ∧ b ≠ byte ')'
  rises : ∀ n ≤ p.length, (p.take n).count (byte '}') ≤ (p.take n).count (byte '{')
  level : p.count (byte '{') = p.count (byte '}')

def functionLine (f p : Bytes) : Bytes :=
  Bytes.of "function " ++ (f ++ (byte '(' :: (p ++ Bytes.of ") \x7b")))

namespace Lexer

theorem ahead_code {l : Bytes} (before : Option UInt8) (plain : ∀ b ∈ l, b ∉ delimiters) :
    ahead ⟨.plain, false⟩ before l = (⟨.plain, false⟩, Brace.ofBytes l) := by
  induction l generalizing before with
  | nil => rfl
  | cons b l ih =>
    have here : step ⟨.plain, false⟩ before b l.head? = (⟨.plain, false⟩, Brace.ofByte? b) := by
      have other := plain b List.mem_cons_self
      simp only [delimiters, List.mem_cons, List.not_mem_nil, or_false, not_or] at other
      obtain ⟨h₁, h₂, h₃, h₄, h₅⟩ := other
      exact step_plain _ _ ⟨h₁, h₂, h₃, h₅⟩ fun same => absurd same h₄
    have rest := ih (some b) fun c member => plain c (List.mem_cons_of_mem b member)
    rw [ahead_cons, here, rest]
    simp only [Brace.ofBytes, List.filterMap_cons]
    cases Brace.ofByte? b <;> rfl

end Lexer

section FunctionLine

variable {f p : Bytes}

theorem ofLine_functionLine (name : Signature.IsName f) (p : Bytes) :
    Signature.ofLine (functionLine f p) = some ⟨.declaration, f⟩ := by
  apply Signature.ofLine_eq_some_iff.mpr
  refine ⟨[], _, _, rfl, rfl, ?_, by simp, by simp⟩
  have lead : Signature.declarationLead.Derives (Bytes.of "function ") :=
    Signature.declarationLead_function (g := [byte ' ']) (by decide +kernel)
  exact ⟨_, [byte '('], p ++ Bytes.of ") \x7b", by simp [functionLine], lead, name,
    Signature.declarationTail_parenthesis⟩

theorem functionLine_plain (name : Signature.IsName f) (parameters : Parameters p) :
    ∀ b ∈ functionLine f p, b ∉ Lexer.delimiters := by
  have named : ∀ b ∈ f, b ∉ Lexer.delimiters := by
    intro b member delimits
    have none : ∀ d ∈ Lexer.delimiters, Signature.isNamePart d = false := by decide +kernel
    have part := name.parts b member
    rw [none b delimits] at part
    cases part
  have front : ∀ b ∈ Bytes.of "function ", b ∉ Lexer.delimiters := by decide +kernel
  have back : ∀ b ∈ Bytes.of ") \x7b", b ∉ Lexer.delimiters := by decide +kernel
  have bracket : byte '(' ∉ Lexer.delimiters := by decide
  intro b member
  simp only [functionLine, List.mem_append, List.mem_cons] at member
  rcases member with member | member | rfl | member | member
  · exact front b member
  · exact named b member
  · exact bracket
  · exact (parameters.plain b member).1
  · exact back b member

theorem functionLine_one_line (name : Signature.IsName f) (parameters : Parameters p) :
    Text.feed ∉ functionLine f p := by
  intro member
  simp only [functionLine, List.mem_append, List.mem_cons] at member
  rcases member with member | member | same | member | member
  · exact absurd member (by decide)
  · cases name.parts _ member
  · cases same
  · exact parameters.line member
  · exact absurd member (by decide)

theorem ofBytes_functionLine (name : Signature.IsName f) (p : Bytes) :
    Brace.ofBytes (functionLine f p) = Brace.ofBytes p ++ [.opening] := by
  have named : Brace.ofBytes f = [] := by
    apply List.filterMap_eq_nil_iff.mpr
    intro b member
    have opens : b ≠ byte '{' := by
      rintro rfl
      cases name.parts _ member
    have closes : b ≠ byte '}' := by
      rintro rfl
      cases name.parts _ member
    simp [Brace.ofByte?, opens, closes]
  have front : Brace.ofBytes (Bytes.of "function ") = [] := by decide
  have bracket : Brace.ofBytes [byte '('] = [] := by decide
  have back : Brace.ofBytes (Bytes.of ") \x7b") = [.opening] := by decide
  have parts : functionLine f p =
      Bytes.of "function " ++ (f ++ ([byte '('] ++ (p ++ Bytes.of ") \x7b"))) := rfl
  rw [parts, Brace.ofBytes_append, Brace.ofBytes_append, Brace.ofBytes_append,
    Brace.ofBytes_append, front, named, bracket, back]
  rfl

theorem line_functionLine (name : Signature.IsName f) (parameters : Parameters p) :
    ({} : Lexer).line (functionLine f p) = ({}, Brace.ofBytes p ++ [.opening]) := by
  rw [← ofBytes_functionLine name]
  exact Lexer.ahead_code none (functionLine_plain name parameters)

end FunctionLine

namespace Resolver

theorem run_idle {r : Resolver} (idle : r.pending = []) {es : List Event}
    (braces : ∀ e ∈ es, ∃ b line, e = .brace b line) :
    (r.run es).pending = [] ∧ (r.run es).closed = r.closed := by
  induction es generalizing r with
  | nil => exact ⟨idle, rfl⟩
  | cons e es ih =>
    obtain ⟨b, line, rfl⟩ := braces e List.mem_cons_self
    have later := fun e member => braces e (List.mem_cons_of_mem _ member)
    cases b with
    | opening =>
      apply ih _ later
      simp [event, brace, opening, idle]
    | closing =>
      have same : r.event (.brace .closing line) = { r with depth := r.depth - 1 } :=
        closing_missed (by simp [idle]) line
      rw [run_cons, same]
      exact ih idle later

theorem braces_idle {r : Resolver} (idle : r.pending = []) (line : Nat) (bs : List Brace) :
    (r.braces line bs).pending = [] ∧ (r.braces line bs).closed = r.closed := by
  rw [← run_braces]
  apply run_idle idle
  intro e member
  obtain ⟨b, _, rfl⟩ := List.mem_map.mp member
  exact ⟨b, line, rfl⟩

def within (f : Bytes) (depth : Int) : Resolver := ⟨depth, [⟨f, 1, some 1⟩], []⟩

theorem braces_out (f : Bytes) (line : Nat) (bs : List Brace) {depth : Int} (inside : 1 ≤ depth)
    (out : depth + Brace.rise bs < 1) :
    ((within f depth).braces line bs).pending = [] ∧
      ((within f depth).braces line bs).closed = [Span.ofLines f 1 line] := by
  induction bs generalizing depth with
  | nil =>
    have still : Brace.rise [] = 0 := rfl
    omega
  | cons b bs ih =>
    rw [Brace.rise] at out
    cases b with
    | opening =>
      simp only [Brace.weight] at out
      exact @ih (depth + 1) (by omega) (by omega)
    | closing =>
      simp only [Brace.weight] at out
      change ((((within f depth).closing line).braces line bs).pending = [] ∧
        (((within f depth).closing line).braces line bs).closed = [Span.ofLines f 1 line])
      by_cases last : depth = 1
      · have found : (within f depth).closing line = ⟨0, [], [Span.ofLines f 1 line]⟩ := by
          rw [last]
          rfl
        rw [found]
        exact braces_idle rfl line bs
      · have missed : (within f depth).closing line = within f (depth - 1) := by
          apply closing_missed
          intro c member
          cases List.mem_singleton.mp member
          intro same
          exact last (Option.some.inj same).symm
        rw [missed]
        exact ih (by omega) (by omega)

end Resolver

theorem Event.ofText_join {ls : List Bytes} (some : ls ≠ []) (lines : ∀ l ∈ ls, Text.feed ∉ l) :
    ofText (Bytes.join [Text.feed] ls) = ofLines {} 0 ls := by
  have trimmed := ofLines_alike Alike.trimmed ls (x := {}) rfl 0
  rw [List.map_id'] at trimmed
  rw [ofText_eq_pieces, Text.pieces_join some lines, trimmed]

theorem Event.braces_of_unsigned {ls : List Bytes}
    (unsigned : ∀ l ∈ ls, Signature.ofLine l = none) (x : Lexer) (n : Nat) :
    ∀ e ∈ ofLines x n ls, ∃ b line, e = .brace b line := by
  intro e member
  rcases mem_ofLines.mp member with ⟨s, signed, _⟩ | ⟨b, _, rfl⟩
  · obtain ⟨i, l, sig, here, found, _⟩ := Signature.mem_listed.mp signed
    rw [unsigned l (List.mem_of_getElem? here)] at found
    cases found
  · exact ⟨b.1, b.2, rfl⟩

structure Body (ls : List Bytes) : Prop where
  lines : ∀ l ∈ ls, Text.feed ∉ l
  unsigned : ∀ l ∈ ls, Signature.ofLine l = none
  rises : ∀ r, Reading.Reached ls r → 0 ≤ r.scan.resolver.depth
  level : (({} : Scan).lines ls).resolver.depth = 0
  ends : (({} : Scan).lines ls).lexer.mode = .plain ∨
    (({} : Scan).lines ls).lexer.mode = .lineComment

def functionText (f p : Bytes) (body : List Bytes) : Bytes :=
  Bytes.join [Text.feed] (functionLine f p :: (body ++ [[byte '}']]))

theorem Event.ofText_function {f p : Bytes} {body : List Bytes} (name : Signature.IsName f)
    (parameters : Parameters p) (whole : Body body) :
    ofText (functionText f p body) =
      (.signature f 1 :: (Brace.ofBytes p ++ [Brace.opening]).map fun b => .brace b 1) ++
        ((ofLines {} 0 body).map (shift 1) ++ [.brace .closing (body.length + 2)]) := by
  have lines : ∀ l ∈ functionLine f p :: (body ++ [[byte '}']]), Text.feed ∉ l := by
    intro l member
    rcases List.mem_cons.mp member with rfl | member
    · exact functionLine_one_line name parameters
    · rcases List.mem_append.mp member with member | last
      · exact whole.lines l member
      · cases List.mem_singleton.mp last
        decide
  have ends := whole.ends
  rw [Scan.lines_eq_run] at ends
  have fresh := Lexer.fresh_of_mode (Lexer.lines_clear rfl body) ends
  have head : ofHead 0 (functionLine f p) = [.signature f 1] := by
    simp only [ofHead, ofLine_functionLine name]
  have last : ofLines {} (1 + body.length) [[byte '}']] =
      [.brace .closing (body.length + 2)] := by
    have unsigned : Signature.ofLine [byte '}'] = none := by decide +kernel
    have lexed : (({} : Lexer).line [byte '}']).2 = [.closing] := by decide
    have place : 1 + body.length + 1 = body.length + 2 := by omega
    rw [ofLines_cons, lexed]
    simp only [ofHead, unsigned, place]
    rfl
  rw [functionText, ofText_join (List.cons_ne_nil _ _) lines, ofLines_cons, head,
    line_functionLine name parameters, ofLines_append, ofLines_fresh fresh, last,
    ← ofLines_shift]
  rfl

section Cases

variable {f p : Bytes} {body : List Bytes}

theorem Parameters.braceless (parameters : Parameters p) (none : byte '{' ∉ p) :
    Brace.ofBytes p = [] := by
  have opens : p.count (byte '{') = 0 := List.count_eq_zero_of_not_mem none
  have closes : byte '}' ∉ p := List.count_eq_zero.mp (parameters.level ▸ opens)
  apply List.filterMap_eq_nil_iff.mpr
  intro b member
  have notOpening : b ≠ byte '{' := by
    rintro rfl
    exact none member
  have notClosing : b ≠ byte '}' := by
    rintro rfl
    exact closes member
  simp [Brace.ofByte?, notOpening, notClosing]

/-- The first brace opens, and the others lead back out of what it opens. -/
theorem Parameters.braced (parameters : Parameters p) (some : byte '{' ∈ p) :
    ∃ bs, Brace.ofBytes p = .opening :: bs ∧ Brace.rise bs = -1 := by
  have level : Brace.rise (Brace.ofBytes p) = 0 := by
    rw [Brace.rise_ofBytes, parameters.level]
    omega
  cases split : Brace.ofBytes p with
  | nil =>
    have unbraced := List.filterMap_eq_nil_iff.mp split _ some
    cases unbraced
  | cons brace bs =>
    rw [split, Brace.rise] at level
    cases brace with
    | opening =>
      refine ⟨bs, rfl, ?_⟩
      simp only [Brace.weight] at level
      omega
    | closing =>
      -- a beginning that ends with the first brace would close more than it opens
      obtain ⟨u, b, v, rfl, before, first, _⟩ := List.filterMap_eq_cons_iff.mp split
      have front : (u ++ b :: v).take (u.length + 1) = u ++ [b] := by
        rw [List.take_append, List.take_of_length_le (by omega)]
        simp
      have ahead : Brace.ofBytes (u ++ [b]) = [.closing] := by
        rw [Brace.ofBytes_append, Brace.ofBytes, List.filterMap_eq_nil_iff.mpr before]
        simp [Brace.ofBytes, first]
      have falls := Brace.rise_ofBytes (u ++ [b])
      have stays := parameters.rises (u.length + 1) (by simp)
      rw [front] at stays
      rw [ahead] at falls
      have one : Brace.rise [.closing] = -1 := rfl
      omega

theorem Resolver.closed_behind_body (whole : Body body) (line : Nat) :
    ((inBody f).run ((Event.ofLines {} 0 body).map (Event.shift 1) ++
      [.brace .closing line])).closed = [Span.ofLines f 1 line] := by
  have rises : ∀ fs, fs <+: Event.ofLines {} 0 body → 0 ≤ (({} : Resolver).run fs).depth := by
    intro fs front
    obtain ⟨r, reached, resolver⟩ := Event.reached_of_prefix front
    exact resolver ▸ whole.rises r reached
  have level := whole.level
  rw [Scan.lines_eq_run] at level
  have idle := run_idle (r := {}) rfl (Event.braces_of_unsigned whole.unsigned {} 0)
  have closed := closing_inBody f _ line rises level
  rw [idle.2] at closed
  rw [run_append]
  exact closed

theorem Resolver.closed_before_body (whole : Body body) {r : Resolver} (idle : r.pending = [])
    (line : Nat) :
    (r.run (.brace .opening 1 :: ((Event.ofLines {} 0 body).map (Event.shift 1) ++
      [.brace .closing line]))).closed = r.closed := by
  apply (run_idle idle ?_).2
  intro e member
  rcases List.mem_cons.mp member with rfl | member
  · exact ⟨_, _, rfl⟩
  · rcases List.mem_append.mp member with member | last
    · obtain ⟨e, own, rfl⟩ := List.mem_map.mp member
      obtain ⟨b, n, rfl⟩ := Event.braces_of_unsigned whole.unsigned {} 0 e own
      exact ⟨b, n + 1, rfl⟩
    · exact ⟨_, _, List.mem_singleton.mp last⟩

end Cases

/-- The span of a function ends with its body if its parameters have no brace. If they have
one, the first of them takes the place of the body, and the span ends on the first line. -/
theorem function_span (f p : Bytes) (body : List Bytes) (name : Signature.IsName f)
    (parameters : Parameters p) (whole : Body body) :
    Span.extract (functionText f p body) =
      [Span.ofLines f 1 (if byte '{' ∈ p then 1 else body.length + 2)] := by
  rw [Span.extract_eq_run, Event.ofText_function name parameters whole]
  by_cases braced : byte '{' ∈ p
  · obtain ⟨bs, split, back⟩ := parameters.braced braced
    have out := Resolver.braces_out f 1 bs (Int.le_refl 1) (by omega)
    have closed := Resolver.closed_before_body whole out.1 (body.length + 2)
    rw [out.2] at closed
    have parts : ∀ rest : List Event,
        (.signature f 1 :: (.opening :: bs ++ [Brace.opening]).map fun b => .brace b 1) ++ rest =
          [.signature f 1, .brace .opening 1] ++ ((bs.map fun b => .brace b 1) ++
            (.brace .opening 1 :: rest)) := by simp
    rw [if_pos braced, split, parts, Resolver.run_append, Resolver.run_append,
      Resolver.run_braces]
    exact congrArg List.reverse closed
  · have closed := Resolver.closed_behind_body (f := f) whole (body.length + 2)
    rw [if_neg braced, parameters.braceless braced]
    exact congrArg List.reverse closed

/-- A body with a block of its own and a brace in a comment at its end. -/
def blockBody : List Bytes := [Bytes.of "  if (a) \x7b", Bytes.of "  \x7d // \x7b"]

theorem blockBody_body : Body blockBody where
  lines := by decide
  unsigned := by decide +kernel
  rises := Reading.rises_of_events (by decide +kernel)
  level := by decide +kernel
  ends := .inr (by decide +kernel)

theorem blockBody_spans :
    Parameters (Bytes.of "a, b") ∧
    Span.extract (functionText (Bytes.of "f") (Bytes.of "a, b") blockBody) =
      [Span.ofLines (Bytes.of "f") 1 4] ∧
    Parameters (Bytes.of "\x7ba\x7d") ∧
    Span.extract (functionText (Bytes.of "f") (Bytes.of "\x7ba\x7d") blockBody) =
      [Span.ofLines (Bytes.of "f") 1 1] := by
  have simple : Parameters (Bytes.of "a, b") :=
    ⟨by decide, by decide +kernel, by decide, by decide⟩
  have pattern : Parameters (Bytes.of "\x7ba\x7d") :=
    ⟨by decide, by decide +kernel, by decide, by decide⟩
  have name : Signature.IsName (Bytes.of "f") := ⟨by decide, by decide +kernel⟩
  refine ⟨simple, ?_, pattern, ?_⟩
  · rw [function_span _ _ _ name simple blockBody_body]
    decide
  · rw [function_span _ _ _ name pattern blockBody_body]
    decide

def returnBody : List Bytes := [Bytes.of "  return a;"]

/-- A pattern among the parameters cuts the span of three lines to the first. -/
theorem patternedFunction_cut :
    Signature.IsName (Bytes.of "f") ∧ Parameters (Bytes.of "\x7ba\x7d") ∧ Body returnBody ∧
    (({} : Scan).lines returnBody).lexer.mode = .plain ∧
    functionText (Bytes.of "f") (Bytes.of "\x7ba\x7d") returnBody =
      Bytes.of "function f(\x7ba\x7d) \x7b\n  return a;\n\x7d" ∧
    Span.extract (functionText (Bytes.of "f") (Bytes.of "\x7ba\x7d") returnBody) ≠
      [Span.ofLines (Bytes.of "f") 1 3] ∧
    Span.extract (functionText (Bytes.of "f") (Bytes.of "\x7ba\x7d") returnBody) =
      [Span.ofLines (Bytes.of "f") 1 1] := by
  have body : Body returnBody :=
    ⟨by decide, by decide +kernel, Reading.rises_of_events (by decide +kernel),
      by decide +kernel, .inl (by decide +kernel)⟩
  refine ⟨⟨by decide, by decide +kernel⟩, ⟨by decide, by decide +kernel, by decide, by decide⟩, body,
    by decide +kernel, by decide, by decide +kernel, by decide +kernel⟩

end SpanGauge
