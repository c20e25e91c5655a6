import SpanGauge.Editor
import SpanGauge.Proofs.Shell.Words
import SpanGauge.Proofs.Text.Number
import SpanGauge.Proofs.Text.Words

/-! Editor commands as a shell reads them. The words of the editor come first, and the path,
quoted, is part of one word, unchanged whatever its bytes are. -/
namespace SpanGauge

namespace Text

/- The character of a byte below 128. -/
def runeOf (b : UInt8) : Rune := ⟨charOf b, [b]⟩

theorem ofRunes_runeOf (w : Bytes) : ofRunes (w.map runeOf) = w := by
  simp [ofRunes, runeOf, List.flatMap_map]

end Text

namespace Shell

theorem IsPlain.ascii {b : UInt8} (plain : IsPlain b) : b < 0x80 := by
  have high := plain.2.1
  rw [UInt8.lt_iff_toNat_lt] at high ⊢
  exact Nat.lt_trans high (by decide)

theorem IsPlain.not_blank {b : UInt8} (plain : IsPlain b) :
    Text.blankRune (Text.runeOf b) = false := by
  obtain ⟨low, high, -⟩ := plain
  rw [UInt8.lt_iff_toNat_lt] at low high
  have least : 32 < b.toNat := low
  have most : b.toNat < 127 := high
  simp only [Text.blankRune, Text.runeOf, Text.isBlank, Text.charOf_toNat, Text.within,
    Text.blankRanges, List.any_cons, List.any_nil, Bool.or_eq_false_iff, Bool.and_eq_false_iff,
    decide_eq_false_iff_not, and_true]
  omega

theorem blank_rune {b : UInt8} (blank : Reading.isBlank b = true) :
    Text.blankRune (Text.runeOf b) = true ∧ b < 0x80 := by
  rcases Bool.or_eq_true_iff.mp blank with h | h <;>
  · rw [eq_of_beq h]
    decide

theorem Spaced.ascii {ws : List Bytes} {t : Bytes} (spaced : Spaced ws t) :
    ∀ b ∈ t, b < 0x80 := by
  induction spaced with
  | last word => exact fun b member => (word.plain b member).ascii
  | more word apart blank rest ih =>
    intro b member
    rcases List.mem_append.mp member with front | behind
    · rcases List.mem_append.mp front with inside | gap
      · exact (word.plain b inside).ascii
      · exact (blank_rune (blank b gap)).2
    · exact ih b behind

theorem PlainWord.runes {w : Bytes} (word : PlainWord w) :
    ∀ r ∈ w.map Text.runeOf, Text.blankRune r = false := by
  intro r member
  obtain ⟨b, inside, rfl⟩ := List.mem_map.mp member
  exact (word.plain b inside).not_blank

theorem Spaced.wordsFrom {ws : List Bytes} {t : Bytes} (spaced : Spaced ws t)
    (acc : List Bytes) : Text.wordsFrom (t.map Text.runeOf) [] acc = acc.reverse ++ ws := by
  induction spaced generalizing acc with
  | @last w word =>
    have read := Text.wordsFrom_word word.runes [] [] acc
    rw [List.append_nil, Text.ofRunes_runeOf, List.nil_append] at read
    rw [read, Text.wordsFrom, if_neg (by simpa using word.nonempty), List.reverse_cons]
  | @more w gap t ws word apart blank rest ih =>
    obtain ⟨b, gap, rfl⟩ := List.exists_cons_of_ne_nil apart
    have ends := (blank_rune (blank b List.mem_cons_self)).1
    have others : ∀ r ∈ gap.map Text.runeOf, Text.blankRune r = true := by
      intro r member
      obtain ⟨c, inside, rfl⟩ := List.mem_map.mp member
      exact (blank_rune (blank c (List.mem_cons_of_mem b inside))).1
    rw [List.map_append, List.map_append, List.append_assoc, Text.wordsFrom_word word.runes,
      Text.ofRunes_runeOf, List.nil_append, List.map_cons, List.cons_append, Text.wordsFrom, ends,
      if_pos rfl, if_neg (by simpa using word.nonempty), Text.wordsFrom_blanks others, ih,
      List.reverse_cons, List.append_assoc]
    rfl

theorem Spaced.ne_nil {ws : List Bytes} {t : Bytes} (spaced : Spaced ws t) : t ≠ [] := by
  cases spaced with
  | last word => exact word.nonempty
  | more word => simp [word.nonempty]

theorem Spaced.words {ws : List Bytes} {t : Bytes} (spaced : Spaced ws t) :
    Text.words t = ws := by
  rw [Text.words, Text.runes_ascii spaced.ascii]
  exact spaced.wordsFrom []

theorem isPlain_of_isDigit {b : UInt8} (digit : Bytes.isDigit b = true) : IsPlain b := by
  simp only [Bytes.isDigit, Bool.and_eq_true, decide_eq_true_eq, UInt8.le_iff_toNat_le] at digit
  obtain ⟨lower, upper⟩ := digit
  have least : 48 ≤ b.toNat := lower
  have most : b.toNat ≤ 57 := upper
  have apart : ∀ c ∈ special, c.toNat < 48 ∨ 57 < c.toNat := by decide +kernel
  refine ⟨UInt8.lt_iff_toNat_lt.mpr ?_, UInt8.lt_iff_toNat_lt.mpr ?_, fun member => ?_⟩
  · exact Nat.lt_of_lt_of_le (by decide : (0x20 : UInt8).toNat < 48) least
  · exact Nat.lt_of_le_of_lt most (by decide : 57 < (0x7F : UInt8).toNat)
  · have := apart b member
    omega

end Shell

namespace Editor

/-- The words of an editor setting: those of its trimmed text, or the usual editor when that
is empty. -/
def Named (setting : Bytes) (ws : List Bytes) : Prop :=
  (Text.trim setting = [] ∧ ws = [Bytes.of "vi"]) ∨ Shell.Spaced ws (Text.trim setting)

theorem Named.spaced {setting : Bytes} {ws : List Bytes} (named : Named setting ws) :
    Shell.Spaced ws (nameOf setting) := by
  rcases named with ⟨blank, rfl⟩ | spaced
  · rw [nameOf, blank]
    exact .last (by decide +kernel)
  · rw [nameOf, if_neg (by simpa using spaced.ne_nil)]
    exact spaced

/- The base name of the program is one of the names. -/
def Among (program : Bytes) (names : List String) : Prop :=
  Path.base program ∈ names.map Bytes.of

theorem any_iff_among (program : Bytes) (names : List String) :
    (names.any fun n => Bytes.of n == Path.base program) = true ↔ Among program names := by
  simp only [Among, List.any_eq_true, List.mem_map, beq_iff_eq]

instance (program : Bytes) (names : List String) : Decidable (Among program names) :=
  decidable_of_iff _ (any_iff_among program names)

def arguments (program path : Bytes) (line : Int) : List Bytes :=
  if line < 1 then [path]
  else if Among program ["code", "code-insiders", "codium", "cursor"] then
    [Bytes.of "-g", path ++ [byte ':'] ++ decimal line]
  else if Among program ["subl", "zed"] then [path ++ [byte ':'] ++ decimal line]
  else [byte '+' :: decimal line, path]

theorem styleOf_eq (program : Bytes) :
    styleOf program =
      if Among program ["code", "code-insiders", "codium", "cursor"] then .goto
      else if Among program ["subl", "zed"] then .suffixed else .plus := by
  simp only [styleOf, any_iff_among]

theorem plainWord_plus {line : Int} (least : 1 ≤ line) :
    Shell.PlainWord (byte '+' :: decimal line) where
  nonempty := by simp
  plain b member := by
    rcases List.mem_cons.mp member with rfl | digit
    · decide
    · exact Shell.isPlain_of_isDigit (digits_decimal (by omega) b digit)
  start same := absurd (Option.some.inj same) (by decide)

/- Every command is a line of plain words and a quoted text after them. -/
theorem command?_shape {setting program : Bytes} {options : List Bytes}
    (spaced : Shell.Spaced (program :: options) (nameOf setting)) (path : Bytes) (line : Int) :
    ∃ ws t s, Shell.Spaced ws t ∧
      command? setting path line = some (t ++ [byte ' '] ++ Shell.quoted s) ∧
      ws ++ [s] = program :: options ++ arguments program path line := by
  simp only [command?, arguments, spaced.words, List.head?_cons, Option.map_some, styleOf_eq, space]
  by_cases below : line < 1
  · exact ⟨_, _, path, spaced, if_pos below, by rw [if_pos below]⟩
  rw [if_neg below, if_neg below]
  by_cases colon : Among program ["code", "code-insiders", "codium", "cursor"]
  · rw [if_pos colon, if_pos colon]
    have flag : Bytes.of " -g " = [byte ' '] ++ Bytes.of "-g" ++ [byte ' '] := by decide
    refine ⟨_, _, path ++ [byte ':'] ++ decimal line, spaced.concat (w := Bytes.of "-g")
      (by decide +kernel), ?_, by simp⟩
    simp only [flag, List.append_assoc]
  rw [if_neg colon, if_neg colon]
  by_cases suffixed : Among program ["subl", "zed"]
  · rw [if_pos suffixed, if_pos suffixed]
    exact ⟨_, _, path ++ [byte ':'] ++ decimal line, spaced, rfl, rfl⟩
  · rw [if_neg suffixed, if_neg suffixed]
    have plus : Bytes.of " +" = [byte ' ', byte '+'] := by decide
    refine ⟨_, _, path, spaced.concat (plainWord_plus (Int.not_lt.mp below)), ?_, by simp⟩
    simp [plus]

end Editor

/-- Of an editor whose words need no quotes there is a command for every path and line, and a
shell reads it as those words and the arguments for the path and the line. -/
theorem editor_command_words (setting path : Bytes) (line : Int) (program : Bytes)
    (options : List Bytes) (named : Editor.Named setting (program :: options)) :
    ∃ command, Editor.command? setting path line = some command ∧
      Editor.opening setting path line = .run command ∧
      Shell.words? command = some (program :: options ++ Editor.arguments program path line) := by
  obtain ⟨ws, t, s, spaced, made, same⟩ := Editor.command?_shape named.spaced path line
  refine ⟨_, made, ?_, ?_⟩
  · rw [Editor.opening, Editor.command, made]
    rfl
  · rw [Shell.words?_spaced_quoted spaced, same]

def waitingEditor : Bytes := Bytes.of " /usr/bin/code\t--wait "

/-- A path of quotes, blanks and a command of its own is one word all the same. -/
theorem waitingEditor_words :
    Editor.Named waitingEditor [Bytes.of "/usr/bin/code", Bytes.of "--wait"] ∧
    Shell.words? (Editor.command waitingEditor (Bytes.of "'; rm -rf $HOME #'") 7) =
      some [Bytes.of "/usr/bin/code", Bytes.of "--wait", Bytes.of "-g",
        Bytes.of "'; rm -rf $HOME #':7"] := by
  have trimmed : Text.trim waitingEditor =
      Bytes.of "/usr/bin/code" ++ Bytes.of "\t" ++ Bytes.of "--wait" := by decide +kernel
  have named : Editor.Named waitingEditor [Bytes.of "/usr/bin/code", Bytes.of "--wait"] := by
    refine .inr ?_
    rw [trimmed]
    exact .more (by decide +kernel) (by decide) (by decide +kernel) (.last (by decide +kernel))
  obtain ⟨command, made, -, words⟩ :=
    editor_command_words waitingEditor (Bytes.of "'; rm -rf $HOME #'") 7 _ _ named
  refine ⟨named, ?_⟩
  rw [Editor.command, made]
  refine words.trans ?_
  decide +kernel

end SpanGauge
