import SpanGauge.Proofs.Lexer.Text
import SpanGauge.Proofs.Signature.Form
import SpanGauge.Proofs.Span.Atop
import SpanGauge.Proofs.Span.TwoStage

/-! Texts put together. The spans of a text are the first spans of any text that goes on
after it, and texts that leave nothing open can be read apart. A text inside a function
body is read as on its own, whatever it leaves pending. -/
namespace SpanGauge

def Lexer.after (text : Bytes) : Lexer := ({} : Lexer).lines (Text.lines text)

theorem Lexer.after_clear (text : Bytes) : (Lexer.after text).skip = false :=
  Lexer.lines_clear rfl _

theorem Lexer.after_eq_pieces (text : Bytes) :
    Lexer.after text = ({} : Lexer).lines (Text.pieces text) := by
  cases text with
  | nil => rfl
  | cons b rest => rw [Lexer.after, Text.lines_eq_pieces (List.cons_ne_nil b rest)]

namespace Event

/-- An empty line brings no event, so it does not matter whether the empty text has one. -/
theorem ofText_eq_pieces (text : Bytes) : ofText text = ofLines {} 0 (Text.pieces text) := by
  cases text with
  | nil => decide +kernel
  | cons b rest => rw [ofText, Text.lines_eq_pieces (List.cons_ne_nil b rest)]

theorem ofText_split (a b : Bytes) :
    ofText (a ++ Text.feed :: b) =
      ofText a ++ ofLines (Lexer.after a) (a.count Text.feed + 1) (Text.pieces b) := by
  rw [ofText_eq_pieces, Text.pieces_append, ofLines_append, ← ofText_eq_pieces,
    ← Lexer.after_eq_pieces, Text.pieces_length, Nat.zero_add]

theorem ofText_append {a : Bytes}
    (mode : (Lexer.after a).mode = .plain ∨ (Lexer.after a).mode = .lineComment) (b : Bytes) :
    ofText (a ++ Text.feed :: b) =
      ofText a ++ (ofText b).map (shift (a.count Text.feed + 1)) := by
  have fresh := Lexer.fresh_of_mode (Lexer.after_clear a) mode
  rw [ofText_split, ofLines_fresh fresh, ofText_eq_pieces b, ← ofLines_shift, Nat.zero_add]

theorem reached_of_prefix {ls : List Bytes} {fs : List Event} (front : fs <+: ofLines {} 0 ls) :
    ∃ r, Reading.Reached ls r ∧ r.scan.resolver = ({} : Resolver).run fs := by
  obtain ⟨rest, split⟩ := front
  cases rest with
  | nil =>
    obtain ⟨last, reached⟩ := Reading.reached_end ls
    refine ⟨_, reached, ?_⟩
    rw [Scan.lines_eq_run, ← List.append_nil fs, split]
  | cons e rest =>
    obtain ⟨r, reached, resolver, _⟩ := Reading.reached_event split.symm
    exact ⟨r, reached, resolver⟩

end Event

open Event

theorem Scan.resolver_eq_run (text : Bytes) :
    (({} : Scan).lines (Text.lines text)).resolver = ({} : Resolver).run (ofText text) := by
  rw [Scan.lines_eq_run]
  rfl

theorem Scan.lexer_eq_after (text : Bytes) :
    (({} : Scan).lines (Text.lines text)).lexer = Lexer.after text := by
  rw [Scan.lines_eq_run]
  rfl

/-- The spans of a text come first in every text that goes on after it; and if it leaves
no signature pending and no comment or literal open, the spans of the second text follow
as they are on their own, moved down by the lines of the first. -/
theorem extract_composes (a b : Bytes) :
    Span.extract a <+: Span.extract (a ++ Text.feed :: b) ∧
    ((({} : Scan).lines (Text.lines a)).resolver.stack = [] →
      ((({} : Scan).lines (Text.lines a)).lexer.mode = .plain ∨
        (({} : Scan).lines (Text.lines a)).lexer.mode = .lineComment) →
      Span.extract (a ++ Text.feed :: b) =
        Span.extract a ++ (Span.extract b).map (Span.shift (a.count Text.feed + 1))) := by
  rw [Scan.resolver_eq_run, Scan.lexer_eq_after, Span.extract_eq_run, Span.extract_eq_run b,
    Span.extract_eq_run (a ++ Text.feed :: b)]
  constructor
  · rw [ofText_split, Resolver.run_append]
    exact List.reverse_prefix.mpr (Resolver.run_closed _ _)
  · intro empty mode
    have none : (({} : Resolver).run (ofText a)).pending = [] := List.reverse_eq_nil_iff.mp empty
    have apart := Resolver.atop_run (({} : Resolver).run (ofText a))
      (a.count Text.feed + 1) {} (ofText b) (by simp [none])
    rw [Resolver.atop_start] at apart
    rw [ofText_append mode, Resolver.run_append, apart]
    simp only [Resolver.atop, List.reverse_append, List.map_reverse]

/-- A text that ends below depth zero and in a comment, and still leaves nothing open. -/
def unevenText : Bytes := Bytes.of "function f() \x7b \x7d \x7d\n\x7d // \x7b"

theorem unevenText_composes :
    (({} : Scan).lines (Text.lines unevenText)).resolver.depth = -2 ∧
    (({} : Scan).lines (Text.lines unevenText)).resolver.stack = [] ∧
    (({} : Scan).lines (Text.lines unevenText)).lexer.mode = .lineComment ∧
    Span.extract (unevenText ++ Text.feed :: Bytes.of "\ng() \x7b\n\x7d") =
      [Span.ofLines (Bytes.of "f") 1 1, Span.ofLines (Bytes.of "g") 4 5] := by
  have stack : (({} : Scan).lines (Text.lines unevenText)).resolver.stack = [] := by
    decide +kernel
  have mode : (({} : Scan).lines (Text.lines unevenText)).lexer.mode = .lineComment := by
    decide +kernel
  refine ⟨by decide +kernel, stack, mode, ?_⟩
  rw [(extract_composes unevenText _).2 stack (.inr mode)]
  decide +kernel

section Header

variable {h : Bytes} {sig : Signature}

theorem Event.ofText_header (line : Text.feed ∉ h) (signed : Signature.ofLine h = some sig)
    (braces : (({} : Lexer).line h).2 = [.opening]) :
    ofText h = [.signature sig.name 1, .brace .opening 1] := by
  rw [ofText_eq_pieces, Text.pieces_single line, ofLines_cons, Lexer.line_dropTrail rfl, braces]
  simp only [ofHead, Signature.ofLine_dropTrail, signed, ofLines_nil]
  rfl

theorem Lexer.after_header (line : Text.feed ∉ h) :
    Lexer.after h = (({} : Lexer).line h).1 := by
  rw [Lexer.after_eq_pieces, Text.pieces_single line]
  exact congrArg Prod.fst (Lexer.line_dropTrail rfl h)

end Header

def Resolver.inBody (name : Bytes) : Resolver := ⟨1, [⟨name, 1, some 1⟩], []⟩

/-- A body that never falls below its own start is untouched by the signature around it,
and the brace after it finds that signature again: all others are pinned deeper. -/
theorem Resolver.closing_inBody (name : Bytes) (es : List Event) (line : Nat)
    (rises : ∀ fs, fs <+: es → 0 ≤ (({} : Resolver).run fs).depth)
    (level : (({} : Resolver).run es).depth = 0) :
    (((inBody name).run (es.map (Event.shift 1))).closing line).closed =
      Span.ofLines name 1 line :: (({} : Resolver).run es).closed.map (Span.shift 1) := by
  have body := atop_run (inBody name) 1 {} es (by
    intro c member
    cases List.mem_singleton.mp member
    refine ⟨1, rfl, fun fs front => ?_⟩
    have high := rises fs front
    change 1 ≤ _ + (1 : Int)
    omega)
  rw [atop_start] at body
  have depth : (atop (inBody name) 1 (({} : Resolver).run es)).depth = 1 := by
    simp only [atop, level]
    rfl
  have deeper : ∀ c ∈ (({} : Resolver).run es).pending.map (Pending.shift 1 1),
      c.depth ≠ some (atop (inBody name) 1 (({} : Resolver).run es)).depth := by
    intro c member hit
    obtain ⟨c, own, rfl⟩ := List.mem_map.mp member
    rw [depth] at hit
    have start : ({} : Resolver).Positive := by simp [Positive]
    have positive := run_positive start rises c own 0 (shift_depth.mp hit)
    omega
  have split : (atop (inBody name) 1 (({} : Resolver).run es)).pending =
      (({} : Resolver).run es).pending.map (Pending.shift 1 1) ++ [⟨name, 1, some 1⟩] := rfl
  rw [body, closing_found split deeper (congrArg some depth.symm)]
  simp [atop, inBody]

/-- A body inside a function is read as on its own, one line further down, and the closing
brace after it ends the function. The body may leave signatures pending. -/
theorem extract_nests (h body : Bytes) (sig : Signature) (line : Text.feed ∉ h)
    (signed : Signature.ofLine h = some sig) (braces : (({} : Lexer).line h).2 = [.opening])
    (code : (({} : Lexer).line h).1.mode = .plain ∨ (({} : Lexer).line h).1.mode = .lineComment)
    (some : body ≠ [])
    (rises : ∀ r, Reading.Reached (Text.lines body) r → 0 ≤ r.scan.resolver.depth)
    (level : (({} : Scan).lines (Text.lines body)).resolver.depth = 0)
    (ends : (({} : Scan).lines (Text.lines body)).lexer.mode = .plain ∨
      (({} : Scan).lines (Text.lines body)).lexer.mode = .lineComment) :
    Span.extract (h ++ Text.feed :: (body ++ Text.feed :: [byte '}'])) =
      (Span.extract body).map (Span.shift 1) ++
        [Span.ofLines sig.name 1 ((Text.lines body).length + 2)] := by
  rw [Scan.resolver_eq_run] at level
  rw [Scan.lexer_eq_after] at ends
  have outer : h.count Text.feed + 1 = 1 := by rw [List.count_eq_zero_of_not_mem line]
  have inner : body.count Text.feed + 1 = (Text.lines body).length := by
    rw [Text.lines_eq_pieces some, Text.pieces_length]
  have close : ofText [byte '}'] = [.brace .closing 1] := by decide +kernel
  have last : 1 + (Text.lines body).length + 1 = (Text.lines body).length + 2 := by omega
  have events : ofText (h ++ Text.feed :: (body ++ Text.feed :: [byte '}'])) =
      [.signature sig.name 1, .brace .opening 1] ++ ((ofText body).map (Event.shift 1) ++
        [.brace .closing ((Text.lines body).length + 2)]) := by
    rw [ofText_append (Lexer.after_header line ▸ code), ofText_header line signed braces,
      ofText_append ends, close, outer, inner]
    simp only [List.map_append, List.map_cons, List.map_nil, Event.shift, last]
  have rising : ∀ fs, fs <+: ofText body → 0 ≤ (({} : Resolver).run fs).depth := by
    intro fs front
    obtain ⟨r, reached, resolver⟩ := reached_of_prefix front
    exact resolver ▸ rises r reached
  have opened : ({} : Resolver).run [.signature sig.name 1, .brace .opening 1] =
      .inBody sig.name := rfl
  rw [Span.extract_eq_run, Span.extract_eq_run body, events, Resolver.run_append,
    Resolver.run_append, opened, List.map_reverse, ← List.reverse_cons]
  exact congrArg List.reverse (Resolver.closing_inBody sig.name (ofText body) _ rising level)

def commentedHeader : Bytes := Bytes.of "const f = (x) => \x7b // \x7b"

/-- Two signatures share a brace, and the first of them is never closed. -/
def sloppyBody : Bytes := Bytes.of "function a()\nfunction b() \x7b\n\x7d"

theorem sloppyBody_rises (r : Reading) (reached : Reading.Reached (Text.lines sloppyBody) r) :
    0 ≤ r.scan.resolver.depth := by
  apply Reading.rises_of_events _ r reached
  decide +kernel

theorem sloppyBody_nests :
    (({} : Scan).lines (Text.lines sloppyBody)).resolver.stack.length = 1 ∧
    Span.extract (commentedHeader ++ Text.feed :: (sloppyBody ++ Text.feed :: [byte '}'])) =
      [Span.ofLines (Bytes.of "b") 3 4, Span.ofLines (Bytes.of "f") 1 5] := by
  refine ⟨by decide +kernel, ?_⟩
  rw [extract_nests commentedHeader sloppyBody ⟨.arrow, Bytes.of "f"⟩ (by decide +kernel)
    (by decide +kernel) (by decide +kernel) (.inr (by decide +kernel)) (by decide +kernel)
    sloppyBody_rises (by decide +kernel) (.inl (by decide +kernel))]
  decide +kernel

end SpanGauge
