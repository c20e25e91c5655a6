import Mathlib.Data.List.TakeWhile
import SpanGauge.Text.Blank
import SpanGauge.Proofs.Text.Decoding

/-! Words of a text. White space parts the words before it from those behind it, and at the ends
of a text it counts for nothing. -/
namespace SpanGauge.Text

theorem wordsFrom_word {w : List Rune} (word : ∀ r ∈ w, blankRune r = false) (rest : List Rune)
    (cur : Bytes) (acc : List Bytes) :
    wordsFrom (w ++ rest) cur acc = wordsFrom rest (cur ++ ofRunes w) acc := by
  induction w generalizing cur with
  | nil => simp [ofRunes]
  | cons r w ih =>
    rw [List.cons_append, wordsFrom, word r List.mem_cons_self, if_neg (by simp),
      ih fun c hc => word c (List.mem_cons_of_mem r hc)]
    simp [ofRunes]

theorem wordsFrom_blanks {gap : List Rune} (blank : ∀ r ∈ gap, blankRune r = true)
    (rest : List Rune) (acc : List Bytes) :
    wordsFrom (gap ++ rest) [] acc = wordsFrom rest [] acc := by
  induction gap with
  | nil => rfl
  | cons r gap ih =>
    rw [List.cons_append, wordsFrom, blank r List.mem_cons_self, if_pos rfl]
    exact ih fun c hc => blank c (List.mem_cons_of_mem r hc)

theorem wordsFrom_acc (rs : List Rune) (cur : Bytes) (acc : List Bytes) :
    wordsFrom rs cur acc = acc.reverse ++ wordsFrom rs cur [] := by
  induction rs generalizing cur acc with
  | nil => by_cases none : cur = [] <;> simp [wordsFrom, none]
  | cons r rs ih =>
    rw [wordsFrom, wordsFrom]
    by_cases blank : blankRune r = true
    · rw [if_pos blank, if_pos blank, ih, ih [] (if cur.isEmpty then [] else [cur])]
      by_cases none : cur = [] <;> simp [none]
    · rw [if_neg blank, if_neg blank, ih]

theorem wordsFrom_append {r : Rune} (blank : blankRune r = true) (rs rs' : List Rune)
    (cur : Bytes) :
    wordsFrom (rs ++ r :: rs') cur [] = wordsFrom rs cur [] ++ wordsFrom rs' [] [] := by
  induction rs generalizing cur with
  | nil =>
    have step : wordsFrom (r :: rs') cur [] =
        wordsFrom rs' [] (if cur.isEmpty then [] else [cur]) := by rw [wordsFrom, if_pos blank]
    rw [List.nil_append, step, wordsFrom_acc]
    rfl
  | cons q rs ih =>
    rw [List.cons_append, wordsFrom, wordsFrom]
    by_cases apart : blankRune q = true
    · rw [if_pos apart, if_pos apart, wordsFrom_acc, ih, ← List.append_assoc, ← wordsFrom_acc]
    · rw [if_neg apart, if_neg apart, ih]

theorem flatten_wordsFrom (rs : List Rune) (cur : Bytes) :
    (wordsFrom rs cur []).flatten = cur ++ ofRunes (rs.filter fun r => !blankRune r) := by
  induction rs generalizing cur with
  | nil => by_cases none : cur = [] <;> simp [wordsFrom, ofRunes, none]
  | cons r rs ih =>
    rw [wordsFrom]
    by_cases blank : blankRune r = true
    · rw [if_pos blank, wordsFrom_acc, List.flatten_append, ih,
        List.filter_cons_of_neg (by simp [blank])]
      by_cases none : cur = [] <;> simp [none]
    · rw [if_neg blank, ih, List.filter_cons_of_pos (by simp [blank]), List.append_assoc]
      rfl

theorem exists_word {a : UInt8} (ascii : a < 0x80) (visible : isBlank (charOf a) = false) {s : Bytes}
    (member : a ∈ s) : ∃ w ∈ words s, a ∈ w := by
  obtain ⟨before, after, rfl⟩ := List.append_of_mem member
  rw [← List.mem_flatten, words, flatten_wordsFrom, runes_append ascii, List.filter_append,
    List.filter_cons_of_pos (by simp [blankRune, visible]), ofRunes_append]
  exact List.mem_append_right _ (List.mem_append_right _ List.mem_cons_self)

theorem wordsFrom_between {before after : List Rune} (front : ∀ r ∈ before, blankRune r = true)
    (back : ∀ r ∈ after, blankRune r = true) (rs : List Rune) :
    wordsFrom (before ++ rs ++ after) [] [] = wordsFrom rs [] [] := by
  rw [List.append_assoc, wordsFrom_blanks front]
  cases after with
  | nil => rw [List.append_nil]
  | cons r after =>
    have others := wordsFrom_blanks (fun r' member => back r' (List.mem_cons_of_mem r member)) [] []
    rw [List.append_nil] at others
    rw [wordsFrom_append (back r List.mem_cons_self), others]
    exact List.append_nil _

theorem trim_ofChars (cs : List Char) :
    ∃ before kept after, cs = before ++ kept ++ after ∧ (∀ c ∈ before, isBlank c = true) ∧
      (∀ c ∈ after, isBlank c = true) ∧ trim (ofChars cs) = ofChars kept := by
  have drop : ∀ l : List Char,
      (l.map runeOfChar).dropWhile blankRune = (l.dropWhile isBlank).map runeOfChar :=
    fun l => List.dropWhile_map
  have back := (cs.dropWhile isBlank).reverse.takeWhile_append_dropWhile (p := isBlank)
  refine ⟨cs.takeWhile isBlank, ((cs.dropWhile isBlank).reverse.dropWhile isBlank).reverse,
    ((cs.dropWhile isBlank).reverse.takeWhile isBlank).reverse, ?_, ?_, ?_, ?_⟩
  · rw [List.append_assoc, ← List.reverse_append, back, List.reverse_reverse,
      List.takeWhile_append_dropWhile]
  · exact fun c member => List.mem_takeWhile_imp member
  · exact fun c member => List.mem_takeWhile_imp (List.mem_reverse.mp member)
  · rw [trim, runes_ofChars, drop, ← List.map_reverse, drop, ← List.map_reverse, ofRunes,
      List.flatMap_map]
    rfl

end SpanGauge.Text
