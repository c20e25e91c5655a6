import SpanGauge.Proofs.Lexer.Text

/-! Texts written as a sequence of plain code, comments and literals. In such a text
the lexer finds exactly the braces of the plain code. -/
namespace SpanGauge

inductive Quote where
  | single
  | double
  | template
  deriving DecidableEq, Repr

namespace Quote

def byte : Quote → UInt8
  | single => Lexer.quote
  | double => Lexer.quotes
  | template => Lexer.backquote

def mode : Quote → Lexer.Mode
  | single => .single
  | double => .double
  | template => .template

theorem byte_ne_feed (q : Quote) : q.byte ≠ Text.feed := by
  cases q <;> decide

end Quote

inductive Segment where
  | plain (code : Bytes)
  | lineComment (body : Bytes)
  | blockComment (body : Bytes)
  | literal (q : Quote) (body : Bytes)
  deriving DecidableEq, Repr

def Brace.ofByte? (b : UInt8) : Option Brace :=
  if b = byte '{' then some .opening else if b = byte '}' then some .closing else none

def Text.located (sense : UInt8 → Option Brace) (n : Nat) : Bytes → List (Brace × Nat)
  | [] => []
  | b :: rest => (sense b).toList.map (fun brace => (brace, n)) ++
      located sense (if b = feed then n + 1 else n) rest

namespace Segment

open Lexer (slash star backslash quote quotes backquote)

def bytes : Segment → Bytes
  | plain code => code
  | lineComment body => slash :: slash :: body
  | blockComment body => slash :: star :: (body ++ [star, slash])
  | literal q body => q.byte :: (body ++ [q.byte])

def text (ss : List Segment) : Bytes := ss.flatMap bytes

def Fits : Segment → Bytes → Prop
  | plain code, rest =>
    (∀ b ∈ code, b ≠ quote ∧ b ≠ quotes ∧ b ≠ backquote ∧ b ≠ backslash) ∧
      ¬ [slash, slash] <:+: code ++ rest.take 1 ∧ ¬ [slash, star] <:+: code ++ rest.take 1
  | lineComment body, rest => Text.feed ∉ body ∧ (rest = [] ∨ rest.head? = some Text.feed)
  | blockComment body, _ => ¬ [star, slash] <:+: body
  | literal q body, _ =>
    (∀ i, i < body.length → body[i]? = some q.byte → 0 < i ∧ body[i - 1]? = some backslash) ∧
      body.getLast? ≠ some backslash

instance (s : Segment) (rest : Bytes) : Decidable (s.Fits rest) :=
  match s with
  | plain _ => inferInstanceAs (Decidable (_ ∧ _))
  | lineComment _ => inferInstanceAs (Decidable (_ ∧ _))
  | blockComment _ => inferInstanceAs (Decidable (¬ _))
  | literal _ _ => inferInstanceAs (Decidable (_ ∧ _))

def WellFormed : List Segment → Prop
  | [] => True
  | s :: ss => s.Fits (text ss) ∧ WellFormed ss

instance decidableWellFormed : (ss : List Segment) → Decidable (WellFormed ss)
  | [] => inferInstanceAs (Decidable True)
  | s :: ss =>
    have := decidableWellFormed ss
    inferInstanceAs (Decidable (s.Fits (text ss) ∧ WellFormed ss))

def code (n : Nat) : Segment → List (Brace × Nat)
  | plain code => Text.located Brace.ofByte? n code
  | _ => []

def braces (n : Nat) : List Segment → List (Brace × Nat)
  | [] => []
  | s :: ss => s.code n ++ braces (n + s.bytes.count Text.feed) ss

end Segment

theorem Text.located_none (n : Nat) (text : Bytes) : Text.located (fun _ => none) n text = [] := by
  induction text generalizing n with
  | nil => rfl
  | cons b rest ih => exact ih _

namespace Lexer

def lastOf (before : Option UInt8) (u : Bytes) : Option UInt8 :=
  match u.getLast? with
  | none => before
  | some b => if b = Text.feed then none else some b

theorem lastOf_cons (before : Option UInt8) (b : UInt8) (u : Bytes) :
    lastOf before (b :: u) = lastOf (if b = Text.feed then none else some b) u := by
  cases u with
  | nil => rfl
  | cons c u => simp only [lastOf, List.getLast?_cons, Option.getD_some]

theorem lastOf_ne {before : Option UInt8} {u : Bytes} {c : UInt8} (outside : before ≠ some c)
    (inside : u.getLast? ≠ some c) : lastOf before u ≠ some c := by
  unfold lastOf
  split
  · exact outside
  · rename_i b last
    split
    · simp
    · exact last ▸ inside

theorem through_stay (x : Lexer) (sense : UInt8 → Option Brace) (body rest : Bytes)
    (before : Option UInt8) (n : Nat) (silent : sense Text.feed = none)
    (kept : Text.feed ∈ body → x.atLineStart = x)
    (stays : ∀ u b v, body = u ++ b :: v → b ≠ Text.feed →
      x.step (lastOf before u) b (v ++ rest).head? = (x, sense b)) :
    x.through before n (body ++ rest) =
      ((x.through (lastOf before body) (n + body.count Text.feed) rest).1,
        Text.located sense n body ++
          (x.through (lastOf before body) (n + body.count Text.feed) rest).2) := by
  induction body generalizing before n with
  | nil => rfl
  | cons b body ih =>
    have tail := ih (if b = Text.feed then none else some b)
      (if b = Text.feed then n + 1 else n) (fun h => kept (List.mem_cons_of_mem b h))
      (fun u c v split other => lastOf_cons before b u ▸ stays (b :: u) c v (by rw [split]; rfl) other)
    rw [List.cons_append, through, Text.located, lastOf_cons]
    by_cases feeds : b = Text.feed
    · have count : n + (b :: body).count Text.feed = n + 1 + body.count Text.feed := by
        rw [feeds, List.count_cons_self]
        omega
      rw [if_pos feeds, if_pos feeds] at tail
      rw [count, if_pos feeds, if_pos feeds, if_pos feeds, feeds, silent,
        kept (feeds ▸ List.mem_cons_self)]
      exact tail
    · have step := stays [] b body rfl feeds
      rw [if_neg feeds, if_neg feeds] at tail
      rw [List.count_cons_of_ne feeds, if_neg feeds, if_neg feeds, if_neg feeds]
      simp only [lastOf, List.getLast?_nil] at step
      simp only [step, tail, List.append_assoc]

theorem step_plain (before after : Option UInt8) {b : UInt8}
    (ordinary : b ≠ quote ∧ b ≠ quotes ∧ b ≠ backquote ∧ b ≠ backslash)
    (comment : b = slash → after ≠ some slash ∧ after ≠ some star) :
    step ⟨.plain, false⟩ before b after = (⟨.plain, false⟩, Brace.ofByte? b) := by
  obtain ⟨h₁, h₂, h₃, _⟩ := ordinary
  have noLine : (b == slash && after == some slash) = false := by
    by_cases h : b = slash
    · simp [(comment h).1]
    · simp [h]
  have noBlock : (b == slash && after == some star) = false := by
    by_cases h : b = slash
    · simp [(comment h).2]
    · simp [h]
  simp only [step, noLine, noBlock, beq_eq_false_iff_ne.mpr h₁, beq_eq_false_iff_ne.mpr h₂,
    beq_eq_false_iff_ne.mpr h₃, Bool.false_and, Bool.false_eq_true, if_false, Brace.ofByte?,
    beq_iff_eq]
  split_ifs <;> rfl

theorem adjacent {code rest u v : Bytes} {b c : UInt8} (split : code = u ++ b :: v)
    (next : (v ++ rest).head? = some c) : [b, c] <:+: code ++ rest.take 1 := by
  obtain ⟨tail, follows⟩ := List.head?_eq_some_iff.mp next
  cases v with
  | nil =>
    rw [List.nil_append] at follows
    exact ⟨u, [], by simp [split, follows]⟩
  | cons d v =>
    cases (List.cons.inj follows).1
    exact ⟨u, v ++ rest.take 1, by simp [split]⟩

theorem through_plain {code rest : Bytes} (before : Option UInt8) (n : Nat)
    (fits : (Segment.plain code).Fits rest) :
    through ⟨.plain, false⟩ before n (code ++ rest) =
      ((through ⟨.plain, false⟩ (lastOf before code) (n + code.count Text.feed) rest).1,
        Text.located Brace.ofByte? n code ++
          (through ⟨.plain, false⟩ (lastOf before code) (n + code.count Text.feed) rest).2) := by
  apply through_stay _ _ code rest before n rfl (fun _ => rfl)
  intro u b v split _
  apply step_plain _ _ (fits.1 b (by simp [split]))
  rintro rfl
  exact ⟨fun next => fits.2.1 (adjacent split next), fun next => fits.2.2 (adjacent split next)⟩

theorem through_silent (x : Lexer) (body rest : Bytes) (before : Option UInt8) (n : Nat)
    (kept : Text.feed ∈ body → x.atLineStart = x)
    (stays : ∀ u b v, body = u ++ b :: v → b ≠ Text.feed →
      x.step (lastOf before u) b (v ++ rest).head? = (x, none)) :
    x.through before n (body ++ rest) =
      x.through (lastOf before body) (n + body.count Text.feed) rest := by
  have stretch := through_stay x (fun _ => none) body rest before n rfl kept stays
  rw [Text.located_none] at stretch
  exact stretch

theorem through_lineComment {body : Bytes} (rest : Bytes) (before : Option UInt8) (n : Nat)
    (inside : Text.feed ∉ body) :
    through ⟨.plain, false⟩ before n (slash :: slash :: (body ++ rest)) =
      through ⟨.lineComment, false⟩ (lastOf (some slash) body) n rest := by
  have stretch := through_silent ⟨.lineComment, false⟩ body rest (some slash) n
    (fun h => absurd h inside) (fun _ _ _ _ _ => rfl)
  rw [List.count_eq_zero_of_not_mem inside] at stretch
  exact stretch

theorem through_blockComment {body : Bytes} (rest : Bytes) (before : Option UInt8) (n : Nat)
    (inside : ¬ [star, slash] <:+: body) :
    through ⟨.plain, false⟩ before n (slash :: star :: (body ++ star :: slash :: rest)) =
      through ⟨.plain, false⟩ (some slash) (n + body.count Text.feed) rest := by
  have stretch := through_silent ⟨.blockComment, false⟩ body (star :: slash :: rest) (some star) n
    (fun _ => rfl) (by
      intro u b v split _
      have stays : (b == star && (v ++ star :: slash :: rest).head? == some slash) = false := by
        rw [Bool.eq_false_iff]
        intro ends
        simp only [Bool.and_eq_true, beq_iff_eq] at ends
        obtain ⟨rfl, next⟩ := ends
        cases v with
        | nil => cases next
        | cons c v =>
          cases Option.some.inj next
          exact inside ⟨u, v, by rw [split]; simp⟩
      simp only [step, stays, Bool.false_eq_true, if_false])
  exact stretch

theorem step_open (q : Quote) {before : Option UInt8} (after : Option UInt8)
    (unescaped : before ≠ some backslash) :
    step ⟨.plain, false⟩ before q.byte after = (⟨q.mode, false⟩, none) := by
  have plain : (before == some backslash) = false := beq_eq_false_iff_ne.mpr unescaped
  cases q <;> simp only [step, plain] <;> rfl

theorem step_inside (q : Quote) {before : Option UInt8} {b : UInt8} (after : Option UInt8)
    (text : b = q.byte → before = some backslash) :
    step ⟨q.mode, false⟩ before b after = (⟨q.mode, false⟩, none) := by
  have stays : (b == q.byte && !(before == some backslash)) = false := by
    by_cases h : b = q.byte
    · simp [text h]
    · simp [h]
  cases q <;> simp only [step, Quote.mode, Quote.byte] at stays ⊢ <;> rw [stays] <;> rfl

theorem step_close (q : Quote) {before : Option UInt8} (after : Option UInt8)
    (unescaped : before ≠ some backslash) :
    step ⟨q.mode, false⟩ before q.byte after = (⟨.plain, false⟩, none) := by
  have plain : (before == some backslash) = false := beq_eq_false_iff_ne.mpr unescaped
  cases q <;> simp only [step, Quote.mode, plain] <;> rfl

theorem through_step {x y : Lexer} {before : Option UInt8} {n : Nat} {b : UInt8} {rest : Bytes}
    (other : b ≠ Text.feed) (moves : x.step before b rest.head? = (y, none)) :
    x.through before n (b :: rest) = y.through (some b) n rest := by
  rw [through, if_neg other]
  simp only [moves]
  rfl

theorem through_literal {q : Quote} {body : Bytes} (rest : Bytes) {before : Option UInt8} (n : Nat)
    (unescaped : before ≠ some backslash) (fits : (Segment.literal q body).Fits rest) :
    through ⟨.plain, false⟩ before n (q.byte :: (body ++ q.byte :: rest)) =
      through ⟨.plain, false⟩ (some q.byte) (n + body.count Text.feed) rest := by
  have other := q.byte_ne_feed
  have own : some q.byte ≠ some backslash := by cases q <;> decide
  have stretch := through_silent ⟨q.mode, false⟩ body (q.byte :: rest) (some q.byte) n
    (fun _ => by cases q <;> rfl) (by
      intro u b v split _
      apply step_inside q
      rintro rfl
      have escaped := fits.1 u.length (by simp [split]) (by simp [split])
      have last : u.getLast? = some backslash := by
        rw [List.getLast?_eq_getElem?, ← escaped.2, split, List.getElem?_append_left (by omega)]
      simp only [lastOf, last]
      rfl)
  rw [through_step other (step_open q _ unescaped), stretch,
    through_step other (step_close q _ (lastOf_ne own fits.2))]

end Lexer

namespace Segment

def EndsInComment (ss : List Segment) : Prop :=
  ∃ earlier body tail, ss = earlier ++ lineComment body :: tail ∧ text tail = []

structure Read (ss : List Segment) (n : Nat) (r : Lexer × List (Brace × Nat)) : Prop where
  braces : r.2 = Segment.braces n ss
  clear : r.1.skip = false
  mode : r.1.mode = .plain ∨ r.1.mode = .lineComment ∧ EndsInComment ss

theorem Read.cons {s : Segment} {ss : List Segment} {n : Nat} {r : Lexer × List (Brace × Nat)}
    (read : Read ss (n + s.bytes.count Text.feed) r) : Read (s :: ss) n (r.1, s.code n ++ r.2) where
  braces := by rw [Segment.braces, read.braces]
  clear := read.clear
  mode := by
    rcases read.mode with plain | ⟨comment, earlier, body, tail, rfl, last⟩
    · exact .inl plain
    · exact .inr ⟨comment, s :: earlier, body, tail, rfl, last⟩

theorem read_plain {code : Bytes} {ss : List Segment} {n : Nat} {before : Option UInt8}
    (fits : (plain code).Fits (text ss)) (unescaped : before ≠ some Lexer.backslash)
    (rest : ∀ last, last ≠ some Lexer.backslash → Read ss (n + (plain code).bytes.count Text.feed)
      (Lexer.through ⟨.plain, false⟩ last (n + (plain code).bytes.count Text.feed) (text ss))) :
    Read (plain code :: ss) n
      (Lexer.through ⟨.plain, false⟩ before n ((plain code).bytes ++ text ss)) := by
  have last : code.getLast? ≠ some Lexer.backslash :=
    fun h => (fits.1 _ (List.mem_of_getLast? h)).2.2.2 rfl
  rw [bytes, Lexer.through_plain before n fits]
  exact (rest _ (Lexer.lastOf_ne unescaped last)).cons

theorem read_blockComment {body : Bytes} {ss : List Segment} {n : Nat} {before : Option UInt8}
    (fits : (blockComment body).Fits (text ss))
    (rest : Read ss (n + (blockComment body).bytes.count Text.feed)
      (Lexer.through ⟨.plain, false⟩ (some Lexer.slash)
        (n + (blockComment body).bytes.count Text.feed) (text ss))) :
    Read (blockComment body :: ss) n
      (Lexer.through ⟨.plain, false⟩ before n ((blockComment body).bytes ++ text ss)) := by
  have count : (blockComment body).bytes.count Text.feed = body.count Text.feed := by
    simp [bytes, show Lexer.slash ≠ Text.feed by decide, show Lexer.star ≠ Text.feed by decide]
  have split : (blockComment body).bytes ++ text ss =
      Lexer.slash :: Lexer.star :: (body ++ Lexer.star :: Lexer.slash :: text ss) := by
    simp [bytes]
  rw [split, Lexer.through_blockComment _ before n fits, ← count]
  exact rest.cons

theorem read_literal {q : Quote} {body : Bytes} {ss : List Segment} {n : Nat}
    {before : Option UInt8} (fits : (literal q body).Fits (text ss))
    (unescaped : before ≠ some Lexer.backslash)
    (rest : Read ss (n + (literal q body).bytes.count Text.feed)
      (Lexer.through ⟨.plain, false⟩ (some q.byte)
        (n + (literal q body).bytes.count Text.feed) (text ss))) :
    Read (literal q body :: ss) n
      (Lexer.through ⟨.plain, false⟩ before n ((literal q body).bytes ++ text ss)) := by
  have count : (literal q body).bytes.count Text.feed = body.count Text.feed := by
    simp [bytes, q.byte_ne_feed]
  have split : (literal q body).bytes ++ text ss = q.byte :: (body ++ q.byte :: text ss) := by
    simp [bytes]
  rw [split, Lexer.through_literal _ n unescaped fits, ← count]
  exact rest.cons

theorem read_lineComment {body : Bytes} {ss : List Segment} {n : Nat} {before : Option UInt8}
    (fits : (lineComment body).Fits (text ss))
    (rest : Read ss (n + (lineComment body).bytes.count Text.feed)
      (Lexer.through ⟨.plain, false⟩ none
        (n + (lineComment body).bytes.count Text.feed) (text ss))) :
    Read (lineComment body :: ss) n
      (Lexer.through ⟨.plain, false⟩ before n ((lineComment body).bytes ++ text ss)) := by
  have count : n + (lineComment body).bytes.count Text.feed = n := by
    simp [bytes, show Lexer.slash ≠ Text.feed by decide, List.count_eq_zero_of_not_mem fits.1]
  have split : (lineComment body).bytes ++ text ss =
      Lexer.slash :: Lexer.slash :: (body ++ text ss) := rfl
  rw [split, Lexer.through_lineComment _ before n fits.1]
  have whole := rest.cons
  rw [count] at whole
  rcases fits.2 with ends | goes
  · rw [ends] at whole ⊢
    exact ⟨whole.braces, rfl, .inr ⟨rfl, [], body, ss, rfl, ends⟩⟩
  · obtain ⟨tail, ends⟩ := List.head?_eq_some_iff.mp goes
    rw [ends] at whole ⊢
    exact whole

theorem read_segments (ss : List Segment) (formed : WellFormed ss) (before : Option UInt8)
    (n : Nat) (unescaped : before ≠ some Lexer.backslash) :
    Read ss n (Lexer.through ⟨.plain, false⟩ before n (text ss)) := by
  induction ss generalizing before n with
  | nil => exact ⟨rfl, rfl, .inl rfl⟩
  | cons s ss ih =>
    obtain ⟨fits, formed⟩ := formed
    cases s with
    | plain code => exact read_plain fits unescaped fun last clean => ih formed last _ clean
    | lineComment body => exact read_lineComment fits (ih formed none _ (by decide))
    | blockComment body => exact read_blockComment fits (ih formed _ _ (by decide))
    | literal q body =>
      exact read_literal fits unescaped (ih formed _ _ (by cases q <;> decide))

end Segment

/-- Over a text of well-formed segments the lexer meets exactly the braces of the plain
ones, in order and with their lines, and ends in plain mode or in the last line's comment. -/
theorem lexer_reads_segments (ss : List Segment) (formed : Segment.WellFormed ss) :
    ({} : Lexer).braces 0 (Text.lines (Segment.text ss)) = Segment.braces 1 ss ∧
      (({} : Lexer).lines (Text.lines (Segment.text ss))).skip = false ∧
      ((({} : Lexer).lines (Text.lines (Segment.text ss))).mode = .plain ∨
        (({} : Lexer).lines (Text.lines (Segment.text ss))).mode = .lineComment ∧
          Segment.EndsInComment ss) := by
  have read := Segment.read_segments ss formed none 1 (by decide)
  have whole := Lexer.through_eq_lines (Segment.text ss)
  rw [whole] at read
  exact ⟨read.braces, read.clear, read.mode⟩

/-- Delimiters of each kind as text of the others, on several lines. -/
def mixedText : List Segment :=
  [.plain (Bytes.of "f() \x7b\n"), .literal .single (Bytes.of "it\\'s // \x7d \"\n`"),
    .plain (Bytes.of " / 2 \x7d\n"), .blockComment (Bytes.of "/ \x7b ' *\n\x7d *"),
    .literal .template (Bytes.of "$\x7b\\`\x7d /* "), .plain (Bytes.of "\x7b"),
    .lineComment (Bytes.of " \x7d */ \x7b \""), .plain (Bytes.of "\n\x7d"),
    .lineComment (Bytes.of "/\x7b")]

theorem mixedText_read :
    ({} : Lexer).braces 0 (Text.lines (Segment.text mixedText)) =
      [(.opening, 1), (.closing, 3), (.opening, 5), (.closing, 6)] := by
  rw [(lexer_reads_segments mixedText (by decide +kernel)).1]
  decide +kernel

end SpanGauge
