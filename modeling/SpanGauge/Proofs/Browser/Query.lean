import SpanGauge.Proofs.Browser.Fresh
import SpanGauge.Proofs.Text.Lower

/-! Queries of several words. An item answers a query by each of its words, so a query that is
put together from two keeps the items that both of them keep. -/
namespace SpanGauge

open Text (lowerWords isBlank)

namespace Browser

def keptFor (b : Browser) (query : List Char) : List Item :=
  { b with input := { b.input with value := query } }.applyQuery.filtered

variable (b : Browser) (i : Item)

theorem Item.answers_iff (q : List Char) :
    i.Answers (Text.ofChars q) ↔ ∀ w ∈ lowerWords q, w <:+: i.haystack := by
  rw [Item.Answers, Text.lowerWords_trim]

theorem Item.answers_append (q q' : List Char) :
    i.Answers (Text.ofChars (q ++ ' ' :: q')) ↔
      i.Answers (Text.ofChars q) ∧ i.Answers (Text.ofChars q') := by
  simp only [i.answers_iff, Text.lowerWords_append (c := ' ') rfl, List.forall_mem_append]

/- Only the members of a list of words count. -/
theorem Item.answers_intercalate {qs qs' : List (List Char)} (same : ∀ q, q ∈ qs ↔ q ∈ qs') :
    i.Answers (Text.ofChars ([' '].intercalate qs)) ↔
      i.Answers (Text.ofChars ([' '].intercalate qs')) := by
  simp only [i.answers_iff, Text.lowerWords_intercalate (c := ' ') rfl, List.mem_flatMap, same]

theorem keptFor_eq (q : List Char) :
    b.keptFor q = b.items.filter fun i => i.Answers (Text.ofChars q) :=
  kept_eq_filter _ _

theorem mem_keptFor {q : List Char} : i ∈ b.keptFor q ↔ i ∈ b.items ∧ i.Answers (Text.ofChars q) := by
  rw [keptFor_eq, List.mem_filter, decide_eq_true_iff]

end Browser

open Browser in
/-- Of any items, a query keeps those that each part of it keeps, in their order. So more words
only narrow the list, their order and repetition do not matter, and a blank query keeps all. -/
theorem query_narrows (b : Browser) (q q' : List Char) :
    b.keptFor (q ++ ' ' :: q') = b.items.filter (fun i => i ∈ b.keptFor q ∧ i ∈ b.keptFor q') ∧
      (b.keptFor (q ++ ' ' :: q')).Sublist (b.keptFor q) ∧
      (∀ qs qs' : List (List Char), (∀ t, t ∈ qs ↔ t ∈ qs') →
        b.keptFor ([' '].intercalate qs) = b.keptFor ([' '].intercalate qs')) ∧
      ((∀ c ∈ q, isBlank c = true) → b.keptFor q = b.items) := by
  refine ⟨?_, ?_, fun qs qs' same => ?_, fun blank => ?_⟩
  · rw [keptFor_eq]
    refine List.filter_congr fun i member => ?_
    simp only [mem_keptFor, member, true_and, i.answers_append]
  · rw [keptFor_eq, keptFor_eq]
    refine List.monotone_filter_right _ fun i both => ?_
    rw [decide_eq_true_iff, i.answers_append] at both
    exact decide_eq_true both.1
  · rw [keptFor_eq, keptFor_eq]
    refine List.filter_congr fun i _ => ?_
    rw [decide_eq_decide, i.answers_intercalate same]
  · rw [keptFor_eq]
    refine List.filter_eq_self.mpr fun i _ => ?_
    rw [decide_eq_true_iff, i.answers_iff, Text.lowerWords_blank blank]
    exact fun w member => absurd member List.not_mem_nil

def doorBrowser : Browser := .start doorReport [] {} true

/- A word in capitals, and one between an ideographic space and a tab. -/
def capitalQuery : List Char := ['C', 'L', 'O']
def spacedQuery : List Char := ['\u3000', 'J', 's', '\t']

theorem spacedWords_narrow :
    (doorBrowser.keptFor (capitalQuery ++ ' ' :: spacedQuery)).map (fun i => i.finding.span.name) =
        [Bytes.of "close"] ∧
      doorBrowser.keptFor (capitalQuery ++ ' ' :: spacedQuery) = doorBrowser.items.filter (fun i =>
        i ∈ doorBrowser.keptFor capitalQuery ∧ i ∈ doorBrowser.keptFor spacedQuery) ∧
      doorBrowser.keptFor ([' '].intercalate [spacedQuery, capitalQuery, spacedQuery]) =
        doorBrowser.keptFor ([' '].intercalate [capitalQuery, spacedQuery]) ∧
      doorBrowser.keptFor ['\u3000'] = doorBrowser.items := by
  obtain ⟨both, -, order, -⟩ := query_narrows doorBrowser capitalQuery spacedQuery
  obtain ⟨-, -, -, blank⟩ := query_narrows doorBrowser ['\u3000'] []
  have same : ∀ t, t ∈ [spacedQuery, capitalQuery, spacedQuery] ↔ t ∈ [capitalQuery, spacedQuery] := by
    intro t
    rw [List.mem_cons, or_iff_right_of_imp]
    rintro rfl
    exact List.mem_cons_of_mem _ List.mem_cons_self
  have wide : ∀ c ∈ ['\u3000'], isBlank c = true :=
    List.forall_mem_singleton.mpr (by decide +kernel)
  exact ⟨by decide +kernel, both, order _ _ same, blank wide⟩

end SpanGauge
