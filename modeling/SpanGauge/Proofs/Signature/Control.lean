import SpanGauge.Proofs.Signature.Call

/-! Control flow opens no signature. A line whose first mark is a parenthesis can only be a
method, and only under the word right before that parenthesis, whatever modifiers lead to it.
So a control word there, which no method may be named after, leaves the line without one. -/
namespace SpanGauge.Signature

open Pattern

structure Modifier where
  word : String
  gap : Bytes
  known : word ∈ modifiers
  apart : gap ≠ []
  blank : ∀ b ∈ gap, isGap b = true

def Modifier.text (m : Modifier) : Bytes := Bytes.of m.word ++ m.gap

def modified (indent : Bytes) (ms : List Modifier) : Bytes := indent ++ ms.flatMap Modifier.text

section Modified

variable {indent : Bytes} (blank : ∀ b ∈ indent, isGap b = true) (ms : List Modifier)

include blank

theorem modified_spaced : Spaced (modified indent ms) := by
  refine (Spaced.ofGaps blank).append ?_
  induction ms with
  | nil => exact .ofGaps (by simp)
  | cons m ms ih =>
    have parts : ∀ s ∈ modifiers, ∀ b ∈ Bytes.of s, isNamePart b = true := by decide +kernel
    exact (Spaced.ofWord (parts m.word m.known) m.apart m.blank).append ih

theorem methodLead_modified : methodLead.Derives (modified indent ms) := by
  refine .seq (derives_many.mpr blank) ?_
  induction ms with
  | nil => exact .stop
  | cons m ms ih =>
    have word : (choice (modifiers.map keyword)).Derives (Bytes.of m.word) :=
      derives_choice.mpr ⟨_, List.mem_map_of_mem m.known, derives_word.mpr rfl⟩
    have spaced : gap.Derives m.gap := by
      obtain ⟨b, rest, split⟩ := List.exists_cons_of_ne_nil m.apart
      have gaps := m.blank
      rw [split] at gaps ⊢
      exact .seq (u := [b]) (.one (gaps b List.mem_cons_self))
        (derives_many.mpr fun c member => gaps c (List.mem_cons_of_mem b member))
    exact .more (.seq word spaced) ih

theorem function_not_modifier : ¬ Bytes.of "function" <:+: modified indent ms := by
  -- no modifier has the letter with which the keyword of a declaration begins
  have words : ∀ s ∈ modifiers, byte 'f' ∉ Bytes.of s := by decide +kernel
  have gaps : ∀ {g : Bytes}, (∀ b ∈ g, isGap b = true) → byte 'f' ∉ g := by
    intro g blank member
    cases blank _ member
  intro inside
  have letter : byte 'f' ∈ modified indent ms := inside.mem (by decide)
  rcases List.mem_append.mp letter with letter | letter
  · exact gaps blank letter
  · obtain ⟨m, _, letter⟩ := List.mem_flatMap.mp letter
    rcases List.mem_append.mp letter with letter | letter
    · exact words m.word m.known letter
    · exact gaps m.blank letter

end Modified

theorem controlWords_named {k : Bytes} (control : k ∈ controlWords) :
    IsName k ∧ ¬ LedByFunction k := by
  have names : ∀ k ∈ controlWords, k.head?.any isNameStart = true ∧ k.all isNamePart = true := by
    decide +kernel
  have short : ∀ k ∈ controlWords, k.length ≤ (Bytes.of "function").length := by decide +kernel
  constructor
  · obtain ⟨first, parts⟩ := names k control
    cases k with
    | nil => cases first
    | cons b rest =>
      refine ⟨by simpa using first, ?_⟩
      intro c member
      exact List.all_eq_true.mp parts c (List.mem_cons_of_mem b member)
  · -- a further name behind the keyword would make the word longer than all of them
    rintro ⟨g, name, rfl⟩
    have bound := short _ control
    have some := List.length_pos_iff.mpr name.ne_nil
    rw [List.length_append] at bound
    omega

/-- A line that begins with modifiers, a control word and a parenthesis has no signature and
adds nothing to the pending ones, whatever follows. It is the word that decides: under any other
name, `function` with a name glued to it apart, such a line can be a method. -/
theorem control_flow_opens_nothing (indent k g t p : Bytes) (ms : List Modifier)
    (blank : ∀ b ∈ indent, isGap b = true) (gaps : ∀ b ∈ g, isGap b = true) :
    (k ∈ controlWords →
      ofLine (modified indent ms ++ k ++ (g ++ byte '(' :: t)) = none ∧
      ∀ s : Scan, s.opened (modified indent ms ++ k ++ (g ++ byte '(' :: t)) = s.resolver) ∧
    (IsName k → k ∉ controlWords → ¬ LedByFunction k → byte ')' ∉ p →
      ofLine (modified indent ms ++ k ++ (g ++ byte '(' :: (p ++ Bytes.of ") \x7b"))) =
        some ⟨.method, k⟩) := by
  have spaced := modified_spaced blank ms
  have none := function_not_modifier blank ms
  constructor
  · intro control
    obtain ⟨name, whole⟩ := controlWords_named control
    have missed : ofLine (modified indent ms ++ k ++ (g ++ byte '(' :: t)) = Option.none := by
      apply ofLine_eq_none_iff.mpr
      intro form member nm fits
      obtain ⟨rfl, rfl⟩ := only_method ⟨spaced, name, gaps⟩ whole none member fits
      exact control
    refine ⟨missed, ?_⟩
    intro s
    simp only [Scan.opened, missed]
  · intro name free whole inside
    exact ofLine_modified ⟨spaced, name, gaps⟩ whole none (methodLead_modified blank ms) free inside

theorem modifiedBranch_opens_nothing :
    Bytes.of "catch" ∈ controlWords ∧
    ofLine (Bytes.of "  static async\tcatch (e) \x7b x: async function (a) \x7b") = none ∧
    ofLine (Bytes.of "  static async\tcatches (e) \x7b") = some ⟨.method, Bytes.of "catches"⟩ := by
  let static : Modifier := ⟨"static", Bytes.of " ", by decide, by decide, by decide +kernel⟩
  let async : Modifier := ⟨"async", Bytes.of "\t", by decide, by decide, by decide +kernel⟩
  have control : Bytes.of "catch" ∈ controlWords := by decide
  have branch : Bytes.of "  static async\tcatch (e) \x7b x: async function (a) \x7b" =
      modified (Bytes.of "  ") [static, async] ++ Bytes.of "catch" ++
        (Bytes.of " " ++ byte '(' :: Bytes.of "e) \x7b x: async function (a) \x7b") := by decide
  have method : Bytes.of "  static async\tcatches (e) \x7b" =
      modified (Bytes.of "  ") [static, async] ++ Bytes.of "catches" ++
        (Bytes.of " " ++ byte '(' :: (Bytes.of "e" ++ Bytes.of ") \x7b")) := by decide
  have whole : ¬ LedByFunction (Bytes.of "catches") := by
    rintro ⟨g, _, same⟩
    cases congrArg List.head? same
  refine ⟨control, ?_, ?_⟩
  · rw [branch]
    exact ((control_flow_opens_nothing _ _ _ _ [] _ (by decide +kernel) (by decide +kernel)).1
      control).1
  · rw [method]
    exact (control_flow_opens_nothing _ _ _ [] _ _ (by decide +kernel) (by decide +kernel)).2
      ⟨by decide, by decide +kernel⟩ (by decide) whole (by decide)

end SpanGauge.Signature
