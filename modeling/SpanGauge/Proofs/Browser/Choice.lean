import SpanGauge.Browser.View
import SpanGauge.Proofs.Browser.Fresh

/-! What a session opens. Each enter that meets a finding chooses it, and the last choice is
opened. Quitting ends the drawing at once, but it neither takes a choice back nor keeps the
messages that are still under way from making one. -/
namespace SpanGauge

namespace Browser

def choice? (b : Browser) : Message → Option Finding
  | .key k => if k.name = Bytes.of "enter" then b.current?.map Item.finding else none
  | _ => none

def quitKeys : List Bytes := [Bytes.of "ctrl+c", Bytes.of "esc"]

def Message.quits : Message → Prop
  | .key k => k.name ∈ quitKeys
  | _ => False

variable {b : Browser}

theorem mem_quitKeys {name : Bytes} :
    (Bytes.of "ctrl+c" == name || Bytes.of "esc" == name) = true ↔ name ∈ quitKeys := by
  rw [Bool.or_eq_true, beq_iff_eq, beq_iff_eq, quitKeys, List.mem_cons, List.mem_singleton,
    eq_comm, eq_comm (a := Bytes.of "esc")]

theorem handle_quit {name : Bytes} (quits : name ∈ quitKeys) :
    b.handle name = ({ b with quitting := true }, some .quit) := by
  simp only [handle, mem_quitKeys.mpr quits, if_true]

def SameEnd (b b' : Browser) : Prop := b'.selected = b.selected ∧ b'.quitting = b.quitting

theorem sameEnd_ite {p : Prop} [Decidable p] {x y : Browser × Option Command}
    (yes : SameEnd b x.1) (no : SameEnd b y.1) : SameEnd b (if p then x else y).1 := by
  split
  · exact yes
  · exact no

/- One case for each group of keys behind enter. -/
theorem handle_other {name : Bytes} (stays : name ∉ quitKeys) (other : name ≠ Bytes.of "enter") :
    SameEnd b (b.handle name).1 := by
  have leave := Bool.eq_false_iff.mpr (mt mem_quitKeys.mp stays)
  have enter : (Bytes.of "enter" == name) = false := beq_eq_false_iff_ne.mpr other.symm
  simp only [handle, leave, enter, Bool.false_eq_true, if_false]
  refine sameEnd_ite ⟨rfl, rfl⟩ (sameEnd_ite ⟨rfl, rfl⟩ (sameEnd_ite ⟨rfl, rfl⟩ ?_))
  refine sameEnd_ite ⟨rfl, rfl⟩ (sameEnd_ite ⟨rfl, rfl⟩ (sameEnd_ite ⟨rfl, rfl⟩ ?_))
  refine sameEnd_ite ?_ (sameEnd_ite ?_ ⟨rfl, rfl⟩)
  · split <;> exact ⟨rfl, rfl⟩
  · split <;> exact ⟨rfl, rfl⟩

theorem handle_enter (b : Browser) :
    (b.handle (Bytes.of "enter")).1.selected = (b.current?.map Item.finding).or b.selected ∧
      (b.handle (Bytes.of "enter")).1.quitting = b.quitting := by
  have leave : (Bytes.of "ctrl+c" == Bytes.of "enter" || Bytes.of "esc" == Bytes.of "enter") =
      false := by decide +kernel
  simp only [handle, leave, BEq.rfl, Bool.false_eq_true, if_false, if_true]
  cases b.current? with
  | none => exact ⟨rfl, rfl⟩
  | some i => exact ⟨rfl, rfl⟩

theorem handle_selected (b : Browser) (name : Bytes) :
    (b.handle name).1.selected =
      (if name = Bytes.of "enter" then b.current?.map Item.finding else none).or b.selected := by
  by_cases enter : name = Bytes.of "enter"
  · rw [if_pos enter, enter, (handle_enter b).1]
  · rw [if_neg enter, Option.none_or]
    by_cases quits : name ∈ quitKeys
    · rw [handle_quit quits]
    · exact (handle_other quits enter).1

theorem handle_quitting (b : Browser) (name : Bytes) :
    (b.handle name).1.quitting = true ↔ b.quitting = true ∨ name ∈ quitKeys := by
  by_cases quits : name ∈ quitKeys
  · simp only [handle_quit quits, quits, or_true]
  · have same : (b.handle name).1.quitting = b.quitting := by
      by_cases enter : name = Bytes.of "enter"
      · rw [enter, (handle_enter b).2]
      · exact (handle_other quits enter).2
    rw [same, or_iff_left quits]

section Step

variable (field : TextField → Message → TextField) (b : Browser) (m : Message)

/- The field has no part in the choice. -/
theorem updateWith_selected :
    (b.updateWith field m).1.selected = (b.choice? m).or b.selected := by
  cases m with
  | resize w h => rfl
  | key k =>
    rw [choice?, ← handle_selected]
    rcases updateWith_key field b k with ⟨command, answered⟩ | passed
    · rw [answered]
    · rw [passed]
      rfl
  | filter => rfl
  | status text fault => rfl

theorem updateWith_quitting :
    (b.updateWith field m).1.quitting = true ↔ b.quitting = true ∨ m.quits := by
  cases m with
  | resize w h => exact (or_iff_left id).symm
  | key k =>
    rw [Message.quits, ← handle_quitting]
    rcases updateWith_key field b k with ⟨command, answered⟩ | passed
    · rw [answered]
    · rw [passed]
      rfl
  | filter => exact (or_iff_left id).symm
  | status text fault => exact (or_iff_left id).symm

end Step

def choices (b : Browser) : List Message → List Finding
  | [] => []
  | m :: ms => (b.choice? m).toList ++ choices (b.update m).1 ms

def Idle (b : Browser) (ms : List Message) : Prop :=
  ∀ n k, ms[n]? = some (.key k) → k.name = Bytes.of "enter" →
    (b.after (ms.take n)).current? = none

theorem after_append (b : Browser) (ms ms' : List Message) :
    b.after (ms ++ ms') = (b.after ms).after ms' := List.foldl_append

theorem selected_after (b : Browser) (ms : List Message) :
    (b.after ms).selected = (b.choices ms).getLast?.or b.selected := by
  induction ms generalizing b with
  | nil => rfl
  | cons m ms ih =>
    have rest : (b.after (m :: ms)).selected = ((b.update m).1.after ms).selected := rfl
    rw [rest, ih, update, updateWith_selected, ← Option.or_assoc, choices, List.getLast?_append]
    cases b.choice? m with
    | none => rfl
    | some f => rfl

theorem quitting_after (b : Browser) (ms : List Message) (quitting : b.quitting = true) :
    (b.after ms).quitting = true := by
  induction ms generalizing b with
  | nil => exact quitting
  | cons m ms ih => exact ih _ ((updateWith_quitting fieldAnswer b m).mpr (.inl quitting))

theorem choice?_eq_none {b : Browser} {m : Message} :
    b.choice? m = none ↔ ∀ k, m = .key k → k.name = Bytes.of "enter" → b.current? = none := by
  cases m with
  | key k =>
    by_cases enter : k.name = Bytes.of "enter"
    · simp [choice?, enter]
    · simp [choice?, enter]
  | resize w h => simp [choice?]
  | filter => simp [choice?]
  | status text fault => simp [choice?]

theorem choices_eq_nil (b : Browser) (ms : List Message) : b.choices ms = [] ↔ b.Idle ms := by
  induction ms generalizing b with
  | nil => simp [choices, Idle]
  | cons m ms ih =>
    have first : (b.choice? m).toList = [] ↔ b.choice? m = none := Option.toList_eq_nil_iff
    rw [choices, List.append_eq_nil_iff, ih, first, choice?_eq_none]
    constructor
    · rintro ⟨here, later⟩ n k found enter
      cases n with
      | zero => exact here k (Option.some.inj found) enter
      | succ n => exact later n k found enter
    · intro idle
      exact ⟨fun k same enter => idle 0 k (congrArg some same) enter,
        fun n k found enter => idle (n + 1) k found enter⟩

theorem Idle.take {b : Browser} {ms : List Message} (idle : b.Idle ms) (n : Nat) :
    b.Idle (ms.take n) := by
  intro i k found enter
  rw [List.getElem?_take] at found
  split at found
  · rename_i below
    rw [List.take_take, Nat.min_eq_left (Nat.le_of_lt below)]
    exact idle i k found enter
  · cases found

theorem selected_none (b : Browser) (unchosen : b.selected = none) (ms : List Message) :
    (b.after ms).selected = none ↔ b.Idle ms := by
  rw [selected_after, unchosen, Option.or_none, List.getLast?_eq_none_iff, choices_eq_nil]

end Browser

open Browser in
/-- Once a session has been left without a choice, nothing is drawn any more, whatever messages
still arrive. That nothing is selected and no editor is opened lasts exactly as long as no enter
meets a finding; otherwise the last finding that one meets is opened. -/
theorem left_session_opens (r : Report) (sources : List (Bytes × Bytes)) (c : Report.Columns)
    (d : Desk) (before later : List Message) (k : Key) (leaves : k.name ∈ quitKeys)
    (unchosen : ((start r sources c true).after before).selected = none) (some : r.list ≠ []) :
    let b := (start r sources c true).after (before ++ [.key k])
    (∀ n, (b.after (later.take n)).quitting = true ∧ ∀ l, (b.after (later.take n)).view l = []) ∧
      ((∀ n, (b.after (later.take n)).selected = none) ↔ b.Idle later) ∧
      ((session r sources c d (before ++ .key k :: later)).2 = [] ↔ b.Idle later) ∧
      (session r sources c d (before ++ .key k :: later)).2 =
        ((b.choices later).getLast?.map d.opens).toList := by
  intro b
  have next : b = (((start r sources c true).after before).update (.key k)).1 :=
    after_append _ before [.key k]
  have quitting : b.quitting = true := by
    rw [next, update, updateWith_quitting]
    exact .inr leaves
  have selected : b.selected = none := by
    have other : k.name ≠ Bytes.of "enter" := by
      intro enter
      rw [enter] at leaves
      exact absurd leaves (by decide +kernel)
    rw [next, update, updateWith_selected, unchosen, choice?, if_neg other]
    rfl
  have whole : (start r sources c true).after (before ++ .key k :: later) = b.after later := by
    rw [← List.singleton_append, ← List.append_assoc, after_append]
  have opened : (session r sources c d (before ++ .key k :: later)).2 =
      ((b.choices later).getLast?.map d.opens).toList := by
    have last := selected_after b later
    rw [selected, Option.or_none] at last
    rw [session, if_neg (by simpa using some), whole, last]
    cases (b.choices later).getLast? with
    | none => rfl
    | some f => rfl
  refine ⟨fun n => ?_, ?_, ?_, opened⟩
  · have ended := quitting_after b (later.take n) quitting
    exact ⟨ended, fun l => by rw [view, if_pos ended]⟩
  · constructor
    · intro none
      have last := none later.length
      rwa [List.take_length, selected_none b selected] at last
    · exact fun idle n => (selected_none b selected _).mpr (idle.take n)
  · rw [opened, Option.toList_eq_nil_iff, Option.map_eq_none_iff, List.getLast?_eq_none_iff,
      choices_eq_nil]

def Key.escape : Key := ⟨Bytes.of "esc", []⟩
def Key.enter : Key := ⟨Bytes.of "enter", []⟩

def doorDesk : Browser.Desk := { editor := Bytes.of "ed" }

/- A query that no finding answers is typed and left. Enter comes before it is applied, and
once more when the list is empty. -/
def typedX : List Browser.Message := [.key (Key.typed (Bytes.of "x") false)]
def lateEnters : List Browser.Message := [.key .enter, .filter, .key .enter]

theorem lateEnters_open :
    Key.escape.name ∈ Browser.quitKeys ∧
      ((Browser.start doorReport [] {} true).after typedX).selected = none ∧
      doorReport.list ≠ [] ∧
      (Browser.session doorReport [] {} doorDesk (typedX ++ .key .escape :: lateEnters)).2 =
        [.run (Bytes.of "ed +1 'a.js'")] := by
  have leaves : Key.escape.name ∈ Browser.quitKeys := by decide +kernel
  have unchosen : ((Browser.start doorReport [] {} true).after typedX).selected = none := by
    decide +kernel
  have some : doorReport.list ≠ [] := by decide
  obtain ⟨-, -, -, opened⟩ :=
    left_session_opens doorReport [] {} doorDesk typedX lateEnters .escape leaves unchosen some
  have choices : (((Browser.start doorReport [] {} true).after
      (typedX ++ [.key .escape])).choices lateEnters).getLast?.map doorDesk.opens =
      Option.some (.run (Bytes.of "ed +1 'a.js'")) := by decide +kernel
  rw [choices] at opened
  exact ⟨leaves, unchosen, some, opened⟩

/-- A finding is selected and opened although the session was left before without a choice. -/
theorem enter_chooses_after_escape :
    Key.escape.name ∈ Browser.quitKeys ∧
      (Browser.start doorReport [] {} true).selected = none ∧
      ((Browser.start doorReport [] {} true).after [.key .escape]).quitting = true ∧
      ((Browser.start doorReport [] {} true).after [.key .escape]).selected = none ∧
      ((Browser.start doorReport [] {} true).after [.key .escape, .key .enter]).selected ≠ none ∧
      (Browser.session doorReport [] {} doorDesk [.key .escape, .key .enter]).2 =
        [.run (Bytes.of "ed +1 'a.js'")] := by
  refine ⟨?_, rfl, ?_, ?_, ?_, ?_⟩ <;> decide +kernel

end SpanGauge
