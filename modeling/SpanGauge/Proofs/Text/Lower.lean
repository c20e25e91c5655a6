import SpanGauge.Text.Case
import SpanGauge.Proofs.Text.Words

/-! Words in lower case. Lower case makes no other character of white space, so it leaves the
words of a text apart where they were. -/
namespace SpanGauge.Text

theorem lowerChar_blank {c : Char} (blank : isBlank c = true) : lowerChar c = c := by
  have apart : ∀ r ∈ blankRanges, ∀ e ∈ lowerTable, r.2 < e.1 ∨ e.2.1 < r.1 := by decide +kernel
  rw [isBlank, within, List.any_eq_true] at blank
  obtain ⟨r, member, bounds⟩ := blank
  rw [Bool.and_eq_true, decide_eq_true_eq, decide_eq_true_eq] at bounds
  have none : (lowerTable.find? fun e =>
      e.1 ≤ c.toNat && c.toNat ≤ e.2.1 && (c.toNat - e.1) % e.2.2.1 == 0) = none := by
    rw [List.find?_eq_none]
    intro e entry inside
    simp only [Bool.and_eq_true, decide_eq_true_eq] at inside
    have beside := apart r member e entry
    omega
  simp only [lowerChar, none]

def lowerWords (cs : List Char) : List Bytes := words (lower (ofChars cs))

theorem lowerWords_eq (cs : List Char) :
    lowerWords cs = wordsFrom (cs.map fun c => runeOfChar (lowerChar c)) [] [] := by
  rw [lowerWords, lower, chars_ofChars, words, runes_ofChars, List.map_map]
  rfl

theorem blankRune_lower {c : Char} (blank : isBlank c = true) :
    blankRune (runeOfChar (lowerChar c)) = true := by
  rw [lowerChar_blank blank]
  exact blank

theorem lowerWords_append {c : Char} (blank : isBlank c = true) (cs cs' : List Char) :
    lowerWords (cs ++ c :: cs') = lowerWords cs ++ lowerWords cs' := by
  rw [lowerWords_eq, lowerWords_eq, lowerWords_eq, List.map_append, List.map_cons,
    wordsFrom_append (blankRune_lower blank)]

theorem lowerWords_between {before after : List Char} (front : ∀ c ∈ before, isBlank c = true)
    (back : ∀ c ∈ after, isBlank c = true) (cs : List Char) :
    lowerWords (before ++ cs ++ after) = lowerWords cs := by
  have blanks : ∀ {l : List Char}, (∀ c ∈ l, isBlank c = true) →
      ∀ r ∈ l.map fun c => runeOfChar (lowerChar c), blankRune r = true := by
    intro l all r member
    obtain ⟨c, at_c, rfl⟩ := List.mem_map.mp member
    exact blankRune_lower (all c at_c)
  rw [lowerWords_eq, lowerWords_eq, List.map_append, List.map_append,
    wordsFrom_between (blanks front) (blanks back)]

theorem lowerWords_blank {cs : List Char} (blank : ∀ c ∈ cs, isBlank c = true) :
    lowerWords cs = [] := by
  have none := lowerWords_between blank (fun c member => absurd member List.not_mem_nil) []
  rw [List.append_nil, List.append_nil] at none
  rw [none, lowerWords_eq]
  rfl

theorem lowerWords_trim (cs : List Char) :
    words (lower (trim (ofChars cs))) = lowerWords cs := by
  obtain ⟨before, kept, after, rfl, front, back, trimmed⟩ := trim_ofChars cs
  rw [trimmed, lowerWords_between front back, lowerWords]

theorem lowerWords_intercalate {c : Char} (blank : isBlank c = true) (css : List (List Char)) :
    lowerWords ([c].intercalate css) = css.flatMap lowerWords := by
  have none : lowerWords [] = [] := lowerWords_blank fun c member => absurd member List.not_mem_nil
  induction css with
  | nil => exact none
  | cons cs css ih =>
    cases css with
    | nil => simp
    | cons cs' css =>
      rw [List.intercalate_cons_cons, List.append_assoc, List.singleton_append,
        lowerWords_append blank, ih]
      rfl

end SpanGauge.Text
