import SpanGauge.Shell.Word

/-! Words that a shell reads back. Bytes without a meaning of their own stand for themselves,
blanks part words, and a quoted text is part of one word whatever its bytes are. -/
namespace SpanGauge.Shell

/-- Bytes that quote, expand or part commands wherever they stand. -/
def special : Bytes := Bytes.of "'\"\\$`;&|()<>"

def IsPlain (b : UInt8) : Prop := 0x20 < b ∧ b < 0x7F ∧ b ∉ special

/-- A word that needs no quotes. A number sign would begin a comment if it came first. -/
structure PlainWord (w : Bytes) : Prop where
  nonempty : w ≠ []
  plain : ∀ b ∈ w, IsPlain b
  start : w.head? ≠ some (byte '#')

instance (b : UInt8) : Decidable (IsPlain b) := inferInstanceAs (Decidable (_ ∧ _))

theorem plainWord_iff (w : Bytes) :
    (!w.isEmpty && w.all (fun b => decide (IsPlain b)) && w.head? != some (byte '#')) = true ↔
      PlainWord w := by
  simp only [Bool.and_eq_true, Bool.not_eq_true', List.isEmpty_eq_false_iff, List.all_eq_true,
    decide_eq_true_iff, bne_iff_ne]
  exact ⟨fun ⟨⟨nonempty, plain⟩, start⟩ => ⟨nonempty, plain, start⟩,
    fun ⟨nonempty, plain, start⟩ => ⟨⟨nonempty, plain⟩, start⟩⟩

instance (w : Bytes) : Decidable (PlainWord w) := decidable_of_iff _ (plainWord_iff w)

namespace Reading

def literals (w : Bytes) : Word := w.map .literal

/- The words read so far, with no word in progress. -/
def between (ws : List Bytes) : Reading where
  tokens := (ws.map fun w => .word (literals w)).reverse

/- The same with a word in progress. -/
def inside (mode : Mode) (ws : List Bytes) (w : Bytes) : Reading :=
  { between ws with mode := mode, word := some (literals w).reverse }

theorem push_inside (mode : Mode) (ws : List Bytes) (w : Bytes) (b : UInt8) :
    (inside mode ws w).push (.literal b) = inside mode ws (w ++ [b]) := by
  simp [push, inside, literals]

theorem close_inside (ws : List Bytes) (w : Bytes) :
    (inside .plain ws w).close = between (ws ++ [w]) := by
  simp [close, inside, between]

theorem step_blank_inside (ws : List Bytes) (w : Bytes) {b : UInt8} (blank : isBlank b = true) :
    (inside .plain ws w).step b = between (ws ++ [w]) := by
  rw [← close_inside]
  rcases Bool.or_eq_true_iff.mp blank with h | h <;>
  · rw [eq_of_beq h]
    rfl

theorem step_blank_between (ws : List Bytes) {b : UInt8} (blank : isBlank b = true) :
    (between ws).step b = between ws := by
  rcases Bool.or_eq_true_iff.mp blank with h | h <;>
  · rw [eq_of_beq h]
    rfl

theorem step_plain {b : UInt8} (plain : IsPlain b) {r : Reading} (mode : r.mode = .plain)
    (escaped : r.escaped = false) (name : r.name = none)
    (start : r.word.isNone → b ≠ byte '#') : r.step b = r.push (.literal b) := by
  obtain ⟨low, _, ordinary⟩ := plain
  have barred (c : UInt8) (h : c ∈ special ∨ c ≤ 0x20) : (b == c) = false := by
    rw [beq_eq_false_iff_ne]
    rintro rfl
    rcases h with h | h
    · exact ordinary h
    · exact absurd low (UInt8.not_lt.mpr h)
  have comment : (b == byte '#' && r.word.isNone) = false := by
    cases h : r.word.isNone
    · simp
    · simpa using start h
  simp only [step, escaped, name, modeStep, mode, plainStep, isBlank, isMark, isRedirect, comment,
    barred quote (by decide), barred doubleQuote (by decide), barred backslash (by decide),
    barred dollar (by decide), barred graveAccent (by decide), barred feed (by decide),
    barred (byte ' ') (by decide), barred (byte '\t') (by decide), barred (byte ';') (by decide),
    barred (byte '&') (by decide), barred (byte '|') (by decide), barred (byte '(') (by decide),
    barred (byte ')') (by decide), barred (byte '>') (by decide), barred (byte '<') (by decide),
    Bool.or_self, Bool.false_eq_true, ↓reduceIte]

theorem foldl_plain_inside (ws : List Bytes) (w : Bytes) {v : Bytes} (plain : ∀ b ∈ v, IsPlain b) :
    v.foldl step (inside .plain ws w) = inside .plain ws (w ++ v) := by
  induction v generalizing w with
  | nil => simp
  | cons b v ih =>
    have first := step_plain (r := inside .plain ws w) (plain b List.mem_cons_self) rfl rfl rfl
      (fun none => nomatch none)
    rw [List.foldl_cons, first, push_inside, ih _ fun c hc => plain c (List.mem_cons_of_mem b hc),
      List.append_assoc]
    rfl

theorem foldl_plainWord (ws : List Bytes) {w : Bytes} (word : PlainWord w) :
    w.foldl step (between ws) = inside .plain ws w := by
  cases w with
  | nil => exact absurd rfl word.nonempty
  | cons b v =>
    have start : b ≠ byte '#' := fun same => word.start (same ▸ rfl)
    have first : (between ws).step b = inside .plain ws [b] :=
      step_plain (word.plain b List.mem_cons_self) rfl rfl rfl fun _ => start
    rw [List.foldl_cons, first,
      foldl_plain_inside _ _ fun c hc => word.plain c (List.mem_cons_of_mem b hc)]
    rfl

theorem foldl_blanks (ws : List Bytes) {gap : Bytes} (blank : ∀ b ∈ gap, isBlank b = true) :
    gap.foldl step (between ws) = between ws := by
  induction gap with
  | nil => rfl
  | cons b gap ih =>
    rw [List.foldl_cons, step_blank_between ws (blank b List.mem_cons_self)]
    exact ih fun c hc => blank c (List.mem_cons_of_mem b hc)

/- One byte of a quoted text. A quote leaves the single quotes, is escaped and enters them
again. -/
theorem foldl_quoted_byte (ws : List Bytes) (w : Bytes) (b : UInt8) :
    (if b == quote then Bytes.of "'\\''" else [b]).foldl step (inside .single ws w) =
      inside .single ws (w ++ [b]) := by
  rw [← push_inside]
  split
  · rename_i same
    rw [eq_of_beq same]
    rfl
  · rename_i other
    have single : (inside .single ws w).modeStep b =
        if b == quote then { inside .single ws w with mode := .plain }
        else (inside .single ws w).push (.literal b) := rfl
    change (inside .single ws w).modeStep b = _
    rw [single, if_neg other]

theorem foldl_quoted_bytes (ws : List Bytes) (w s : Bytes) :
    (s.flatMap fun b => if b == quote then Bytes.of "'\\''" else [b]).foldl step
      (inside .single ws w) = inside .single ws (w ++ s) := by
  induction s generalizing w with
  | nil => simp
  | cons b s ih =>
    rw [List.flatMap_cons, List.foldl_append, foldl_quoted_byte, ih, List.append_assoc]
    rfl

theorem foldl_quoted (ws : List Bytes) (s : Bytes) :
    (quoted s).foldl step (between ws) = inside .plain ws s := by
  have enter : (between ws).step quote = inside .single ws [] := rfl
  have leave : (inside .single ws s).step quote = inside .plain ws s := rfl
  rw [quoted, List.cons_append, List.foldl_cons, List.foldl_append, enter, foldl_quoted_bytes,
    List.nil_append]
  exact leave

structure Stopped (r : Reading) : Prop where
  mode : r.mode = .substitution
  escaped : r.escaped = false
  name : r.name = none

theorem Stopped.foldl {r : Reading} (stopped : Stopped r) (s : Bytes) : s.foldl step r = r := by
  have step (b : UInt8) : r.step b = r := by
    simp only [Reading.step, stopped.escaped, stopped.name, modeStep, stopped.mode,
      Bool.false_eq_true, ↓reduceIte]
  induction s with
  | nil => rfl
  | cons b s ih => rw [List.foldl_cons, step, ih]

end Reading

/-- Where the output of a command would be put in, a line has no words, whatever comes behind. -/
theorem words?_stopped {front : Bytes} (stopped : (front.foldl Reading.step {}).Stopped)
    (back : Bytes) : words? (front ++ back) = none := by
  have reading : (front ++ back).foldl Reading.step {} = front.foldl Reading.step {} := by
    rw [List.foldl_append, stopped.foldl]
  have unnamed : (front.foldl Reading.step {}).closeName = front.foldl Reading.step {} := by
    rw [Reading.closeName, stopped.name]
  have tokens : tokens? (front ++ back) = none := by
    rw [tokens?, reading, unnamed, stopped.mode]
    rfl
  rw [words?, tokens, Option.bind_none]

example : words? (Bytes.of "vi \"$(id)\"") = none := by decide +kernel

theorem literal?_literals (w : Bytes) : literal? (Reading.literals w) = some w := by
  unfold literal? Reading.literals
  induction w with
  | nil => rfl
  | cons b w ih => simp [ih]

theorem mapM_literals (ws : List Bytes) :
    ((ws.map fun w => Token.word (Reading.literals w)).mapM fun t =>
      match t with
      | .word w => literal? w
      | _ => none) = some ws := by
  induction ws with
  | nil => rfl
  | cons w ws ih => simp [literal?_literals, ih]

theorem words?_eq {line : Bytes} {ws : List Bytes} {w : Bytes}
    (read : line.foldl Reading.step (Reading.between []) = Reading.inside .plain ws w) :
    words? line = some (ws ++ [w]) := by
  have reading : line.foldl Reading.step {} = Reading.inside .plain ws w := read
  have unnamed : (Reading.inside .plain ws w).closeName = Reading.inside .plain ws w := rfl
  have tokens : tokens? line = some ((ws ++ [w]).map fun w => .word (Reading.literals w)) := by
    simp only [tokens?, reading, unnamed]
    change some ((Reading.inside .plain ws w).close.tokens.reverse) = _
    rw [Reading.close_inside, Reading.between, List.reverse_reverse]
  rw [words?, tokens, Option.bind_some]
  exact mapM_literals (ws ++ [w])

inductive Spaced : List Bytes → Bytes → Prop
  | last {w : Bytes} (word : PlainWord w) : Spaced [w] w
  | more {w gap t : Bytes} {ws : List Bytes} (word : PlainWord w) (apart : gap ≠ [])
      (blank : ∀ b ∈ gap, Reading.isBlank b = true) (rest : Spaced ws t) :
      Spaced (w :: ws) (w ++ gap ++ t)

theorem Spaced.concat {ws : List Bytes} {t w : Bytes} (spaced : Spaced ws t)
    (word : PlainWord w) : Spaced (ws ++ [w]) (t ++ [byte ' '] ++ w) := by
  have single : ∀ b ∈ [byte ' '], Reading.isBlank b = true := by simp [Reading.isBlank]
  induction spaced with
  | last front => exact .more front (by simp) single (.last word)
  | more front apart blank rest ih =>
    have longer := Spaced.more front apart blank ih
    rwa [← List.append_assoc, ← List.append_assoc] at longer

/- One more blank behind the text ends its last word. -/
theorem Spaced.foldl {ws : List Bytes} {t : Bytes} (spaced : Spaced ws t) (before : List Bytes) :
    (t ++ [byte ' ']).foldl Reading.step (Reading.between before) =
      Reading.between (before ++ ws) := by
  induction spaced generalizing before with
  | last word =>
    rw [List.foldl_append, Reading.foldl_plainWord _ word]
    exact Reading.step_blank_inside before _ (b := byte ' ') rfl
  | @more w gap t ws word apart blank rest ih =>
    obtain ⟨b, gap, rfl⟩ := List.exists_cons_of_ne_nil apart
    have ends : Reading.isBlank b = true := blank b List.mem_cons_self
    have others : ∀ c ∈ gap, Reading.isBlank c = true :=
      fun c hc => blank c (List.mem_cons_of_mem b hc)
    rw [List.append_assoc, List.append_assoc, List.foldl_append, Reading.foldl_plainWord _ word,
      List.foldl_append, List.foldl_cons, Reading.step_blank_inside _ _ ends,
      Reading.foldl_blanks _ others, ih, List.append_assoc]
    rfl

/-- Plain words and a quoted text after them are read back as they are. -/
theorem words?_spaced_quoted {ws : List Bytes} {t : Bytes} (spaced : Spaced ws t) (s : Bytes) :
    words? (t ++ [byte ' '] ++ quoted s) = some (ws ++ [s]) := by
  apply words?_eq
  rw [List.foldl_append, spaced.foldl, List.nil_append, Reading.foldl_quoted]

end SpanGauge.Shell
