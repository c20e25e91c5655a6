import SpanGauge.Proofs.Browser.Invariant

/-! The list keeps up with the query. A query is applied a while after it was edited, and by
then it may have been edited again; but every edit starts a delay of its own, and each delay
applies the query as it stands at its end. -/
namespace SpanGauge

theorem Bytes.contains_iff_infix {s p : Bytes} : s.contains p = true ↔ p <:+: s := by
  induction s with
  | nil => simp [Bytes.contains]
  | cons b rest ih => simp [Bytes.contains, List.infix_cons_iff, ih]

namespace Browser

def Item.Answers (i : Item) (query : Bytes) : Prop :=
  ∀ w ∈ Text.words (Text.lower (Text.trim query)), w <:+: i.haystack

theorem Item.hasAll_iff (i : Item) (query : Bytes) :
    i.hasAll (Text.words (Text.lower (Text.trim query))) = true ↔ i.Answers query := by
  simp only [Item.hasAll, List.all_eq_true, Bytes.contains_iff_infix, Item.Answers]

instance (i : Item) (query : Bytes) : Decidable (i.Answers query) :=
  decidable_of_iff _ (i.hasAll_iff query)

theorem Item.answers_blank (i : Item) {query : Bytes} (blank : Text.trim query = []) :
    i.Answers query := by
  have none : Text.words (Text.lower []) = [] := by
    simp [Text.words, Text.wordsFrom, Text.lower, Text.chars, Text.ofChars, Text.runes,
      Text.runesFrom]
  intro w member
  rw [blank, none] at member
  exact absurd member List.not_mem_nil

theorem kept_blank {query : Bytes} (blank : Text.trim query = []) (items : List Item) :
    kept query items = items := by
  rw [kept, blank]
  rfl

theorem kept_eq_filter (query : Bytes) (items : List Item) :
    kept query items = items.filter fun i => i.Answers query := by
  by_cases blank : Text.trim query = []
  · have all := fun i (_ : i ∈ items) => decide_eq_true (i.answers_blank blank)
    rw [kept_blank blank, List.filter_eq_self.mpr all]
  · rw [kept, if_neg (by simpa using blank)]
    refine List.filter_congr fun i _ => ?_
    rw [Bool.eq_iff_iff, i.hasAll_iff, decide_eq_true_iff]

variable (field : TextField → Message → TextField) (b : Browser)

/- The list changes only when a query is applied. -/
theorem updateWith_list {m : Message} (other : m ≠ .filter) :
    (b.updateWith field m).1.items = b.items ∧ (b.updateWith field m).1.filtered = b.filtered := by
  cases m with
  | resize w h => exact ⟨rfl, rfl⟩
  | key k =>
    obtain ⟨items, filtered, -, -⟩ := (b.handled k.name).frame
    rcases updateWith_key field b k with ⟨command, answered⟩ | passed
    · rw [answered]
      exact ⟨items, filtered⟩
    · rw [passed]
      exact ⟨items, filtered⟩
  | filter => exact absurd rfl other
  | status text fault => exact ⟨rfl, rfl⟩

def delaysOf : Option Command → Nat
  | some (.later true) => 1
  | _ => 0

theorem passOn_query (m : Message) :
    (b.passOn field m).1.input.value = b.input.value ∨ delaysOf (b.passOn field m).2 = 1 := by
  by_cases same : b.input.value = (field b.input m).value
  · exact .inl same.symm
  · refine .inr ?_
    simp only [passOn, afterField, if_pos same, delaysOf]

/- No message changes the query without a delay. The keys that the browser answers with a
command never reach the field. -/
theorem updateWith_query (m : Message) :
    (b.updateWith field m).1.input.value = b.input.value ∨
      delaysOf (b.updateWith field m).2 = 1 := by
  cases m with
  | resize w h => exact passOn_query field { b with width := _, height := _, input := _ } _
  | key k =>
    have input := (b.handled k.name).frame.2.2.1
    rcases updateWith_key field b k with ⟨command, answered⟩ | passed
    · rw [answered]
      exact .inl (congrArg TextField.value input)
    · rw [passed, ← input]
      exact passOn_query field _ _
  | filter => exact .inl rfl
  | status text fault => exact .inl rfl

structure Timed where
  browser : Browser
  delays : Nat

namespace Timed

def receive (s : Timed) (field : TextField → Message → TextField) (m : Message) : Timed where
  browser := (s.browser.updateWith field m).1
  delays := s.delays + delaysOf (s.browser.updateWith field m).2

def elapse (s : Timed) (field : TextField → Message → TextField) : Timed :=
  { s with delays := s.delays - 1 }.receive field .filter

/-- Messages arrive in any order, and the delays end in any order among them; the field answers
in any way. A query is applied at the end of a delay only. -/
inductive Step : Timed → Timed → Prop
  | message (s : Timed) (field : TextField → Message → TextField) {m : Message}
      (other : m ≠ .filter) : Step s (s.receive field m)
  | elapse (s : Timed) (field : TextField → Message → TextField) (due : 0 < s.delays) :
      Step s (s.elapse field)

def Reached (r : Report) (sources : List (Bytes × Bytes)) (c : Report.Columns) (connected : Bool) :
    Timed → Prop :=
  Relation.ReflTransGen Step ⟨start r sources c connected, 0⟩

variable {s s' : Timed}

theorem Step.browser (step : Step s s') : Browser.Step s.browser s'.browser := by
  cases step with
  | message field other => exact .message s.browser field _
  | elapse field due => exact .message s.browser field .filter

theorem Reached.browser {r : Report} {sources : List (Bytes × Bytes)} {c : Report.Columns}
    {connected : Bool} (reached : Reached r sources c connected s) :
    Browser.Reached r sources c connected s.browser := by
  induction reached with
  | refl => exact .refl
  | tail _ step ih => exact ih.tail step.browser

/-- With no delay under way, the list is the one of the query as it stands. -/
def Fresh (s : Timed) : Prop :=
  s.delays = 0 → s.browser.filtered = kept s.browser.input.text s.browser.items

/- A message that leaves no delay behind started none and met none, so neither the query nor
the list has changed. A delay that ends leaves the list right, also when others are under way. -/
theorem fresh_step (step : Step s s') (fresh : s.Fresh) : s'.Fresh := by
  cases step with
  | @message field m other =>
    intro idle
    simp only [receive, Nat.add_eq_zero_iff] at idle
    obtain ⟨items, filtered⟩ := updateWith_list field s.browser other
    rcases updateWith_query field s.browser m with value | delay
    · have text : (s.receive field m).browser.input.text = s.browser.input.text :=
        congrArg Text.ofChars value
      rw [text]
      simp only [receive, items, filtered]
      exact fresh idle.1
    · omega
  | elapse field due => exact fun _ => rfl

theorem fresh_reached {r : Report} {sources : List (Bytes × Bytes)} {c : Report.Columns}
    {connected : Bool} (reached : Reached r sources c connected s) : s.Fresh := by
  induction reached with
  | refl =>
    have blank : Text.trim [] = [] := by simp [Text.trim, Text.ofRunes, Text.runes, Text.runesFrom]
    exact fun _ => (kept_blank blank _).symm
  | tail _ step ih => exact fresh_step step ih

end Timed
end Browser

/-- However edits and delays overlap, and whatever the field makes of a message, a delay is under
way or the list holds, in order, the items that answer the query as it stands; that is every item
when the query is blank. -/
theorem list_keeps_up (r : Report) (sources : List (Bytes × Bytes)) (c : Report.Columns)
    (connected : Bool) (s : Browser.Timed)
    (reached : Browser.Timed.Reached r sources c connected s) :
    0 < s.delays ∨
      s.browser.filtered = (r.list.map (Browser.Item.ofFinding sources)).filter
        (fun i => i.Answers s.browser.input.text) ∧
      (Text.trim s.browser.input.text = [] →
        s.browser.filtered = r.list.map (Browser.Item.ofFinding sources)) := by
  by_cases idle : s.delays = 0
  · have list := Browser.Timed.fresh_reached reached idle
    rw [(Browser.sound_reached reached.browser).items] at list
    refine .inr ⟨?_, fun blank => ?_⟩
    · rw [list, Browser.kept_eq_filter]
    · rw [list, Browser.kept_blank blank]
  · exact .inl (Nat.pos_of_ne_zero idle)

def doorReport : Report where
  threshold := 0
  files := 1
  functions := 2
  violations := 2
  excused := 0
  findings := some [
    ⟨Bytes.of "a.js", Bytes.of "a.js", Span.ofLines (Bytes.of "close") 1 2, true, false, []⟩,
    ⟨Bytes.of "a.js", Bytes.of "a.js", Span.ofLines (Bytes.of "open") 3 5, true, false, []⟩]

/- Two letters are typed in haste, before the delay of the first ends. -/
def hastyTyping : Browser.Timed :=
  let typed (letter : String) := Browser.Message.key (Key.typed (Bytes.of letter) false)
  let begun : Browser.Timed := ⟨Browser.start doorReport [] {} true, 0⟩
  (begun.receive Browser.fieldAnswer (typed "O")).receive Browser.fieldAnswer (typed "P")

/- The delay of the second letter ends after a resize. -/
def hastyVisit : Browser.Timed :=
  let resized := (hastyTyping.elapse Browser.fieldAnswer).receive Browser.fieldAnswer
    (.resize 80 24)
  resized.elapse Browser.fieldAnswer

theorem hastyVisit_keeps_up :
    Browser.Timed.Reached doorReport [] {} true hastyVisit ∧ hastyVisit.delays = 0 ∧
      hastyVisit.browser.filtered.map (fun i => i.finding.span.name) = [Bytes.of "open"] ∧
      hastyVisit.browser.filtered = (doorReport.list.map (Browser.Item.ofFinding [])).filter
        (fun i => i.Answers hastyVisit.browser.input.text) := by
  have typed : Browser.Timed.Reached doorReport [] {} true hastyTyping :=
    .tail (.tail .refl (.message _ _ (by nofun))) (.message _ _ (by nofun))
  have reached : Browser.Timed.Reached doorReport [] {} true hastyVisit :=
    .tail (.tail (.tail typed (.elapse _ _ (by decide +kernel))) (.message _ _ (by nofun)))
      (.elapse _ _ (by decide +kernel))
  have idle : hastyVisit.delays = 0 := by decide +kernel
  rcases list_keeps_up doorReport [] {} true hastyVisit reached with due | ⟨list, -⟩
  · omega
  · exact ⟨reached, idle, by decide +kernel, list⟩

end SpanGauge
