import Mathlib.Logic.Relation
import SpanGauge.Browser.Session
import SpanGauge.Proofs.Window.Scroll

/-! What every state of the browser has in common. A key leaves the list alone, selects the
current item or moves the cursor within the list, and whatever the field makes of a message,
cursor and offset stay on the list. -/
namespace SpanGauge.Browser

inductive Handled (b : Browser) : Browser → Prop
  | none : Handled b b
  | quit : Handled b { b with quitting := true }
  | select {i : Item} (current : b.current? = some i) :
      Handled b { b with selected := some i.finding }
  | move {c : Int} (least : 0 ≤ c) (most : c ≤ b.lastIndex) :
      Handled b { b with cursor := c }.settle

variable {b b' : Browser}

theorem lastIndex_nonneg (b : Browser) : 0 ≤ b.lastIndex := Int.le_max_left ..

theorem handled_move (b : Browser) (delta : Int) : Handled b (b.move delta) := by
  obtain ⟨least, most⟩ := Window.clamp_bounds b.lastIndex_nonneg
  exact .move least most

theorem handled_ite {p : Prop} [Decidable p] {x y : Browser × Option Command}
    (yes : Handled b x.1) (no : Handled b y.1) : Handled b (if p then x else y).1 := by
  split
  · exact yes
  · exact no

/- One case for each group of keys, in the order in which they are looked up. -/
theorem handled (b : Browser) (name : Bytes) : Handled b (b.handle name).1 := by
  unfold handle
  refine handled_ite .quit (handled_ite ?enter ?_)
  case enter =>
    split
    · rename_i current
      exact .select current
    · exact .none
  refine handled_ite (b.handled_move (-1)) ?_
  refine handled_ite (b.handled_move 1) ?_
  refine handled_ite (b.handled_move (-10)) ?_
  refine handled_ite (b.handled_move 10) ?_
  refine handled_ite (.move (Int.le_refl 0) b.lastIndex_nonneg) ?_
  refine handled_ite (.move b.lastIndex_nonneg (Int.le_refl _)) ?_
  refine handled_ite ?_ (handled_ite ?_ .none)
  · split <;> exact .none
  · split <;> exact .none

/- No key of the browser touches the items, the query or the size of the screen. -/
theorem Handled.frame (handled : Handled b b') :
    b'.items = b.items ∧ b'.filtered = b.filtered ∧ b'.input = b.input ∧ b'.height = b.height := by
  cases handled with
  | none => exact ⟨rfl, rfl, rfl, rfl⟩
  | quit => exact ⟨rfl, rfl, rfl, rfl⟩
  | select => exact ⟨rfl, rfl, rfl, rfl⟩
  | move => exact ⟨rfl, rfl, rfl, rfl⟩

theorem Handled.columns (handled : Handled b b') : b'.columns = b.columns := by
  cases handled with
  | none => rfl
  | quit => rfl
  | select => rfl
  | move => rfl

/- A key is answered by the browser, or else passed on to the field. -/
theorem updateWith_key (field : TextField → Message → TextField) (b : Browser) (k : Key) :
    (∃ command, b.updateWith field (.key k) = ((b.handle k.name).1, some command)) ∨
      b.updateWith field (.key k) = (b.handle k.name).1.passOn field (.key k) := by
  simp only [updateWith]
  split
  · rename_i same
    rw [same]
    exact .inl ⟨_, rfl⟩
  · rename_i same
    rw [same]
    exact .inr rfl

/-- Items are the findings of the report in order, the filtered ones are some of them in the
same order, cursor and offset are on the list, and what is selected is a finding. -/
structure Sound (r : Report) (sources : List (Bytes × Bytes)) (b : Browser) : Prop where
  items : b.items = r.list.map (Item.ofFinding sources)
  filtered : b.filtered.Sublist b.items
  cursor : 0 ≤ b.cursor ∧ b.cursor ≤ max 0 ((b.filtered.length : Int) - 1)
  offset : 0 ≤ b.offset ∧ b.offset ≤ b.cursor ∧
    b.offset ≤ max 0 ((b.filtered.length : Int) - 3)
  selected : ∀ f, b.selected = some f → f ∈ r.list

variable {r : Report} {sources : List (Bytes × Bytes)}

theorem sound_start (r : Report) (sources : List (Bytes × Bytes)) (c : Report.Columns)
    (connected : Bool) : Sound r sources (start r sources c connected) where
  items := rfl
  filtered := .refl _
  cursor := ⟨Int.le_refl 0, Int.le_max_left ..⟩
  offset := ⟨Int.le_refl 0, Int.le_refl 0, Int.le_max_left ..⟩
  selected _ h := nomatch h

/- The height by which the list is scrolled is a word, at least three. -/
theorem settle_offset (b : Browser) (least : 0 ≤ b.cursor) :
    0 ≤ b.settle.offset ∧ b.settle.offset ≤ b.cursor ∧
      b.settle.offset ≤ max 0 ((b.filtered.length : Int) - 3) := by
  have word := (wrap_isWord (b.height - previewLines - 5)).2
  have large : (3 : Int) ≤ Text.largest := by decide
  obtain ⟨zero, behind, last⟩ := Window.scroll_bounds b.cursor b.filtered.length
    (max (Text.wrap (b.height - previewLines - 5)) 3) b.offset least (Int.natCast_nonneg _)
    (by omega) (by omega)
  exact ⟨zero, behind, Int.le_trans last (by omega)⟩

/- Wherever the cursor is put on the list, settling makes the rest right. -/
theorem sound_settle (items : b.items = r.list.map (Item.ofFinding sources))
    (filtered : b.filtered.Sublist b.items) (selected : ∀ f, b.selected = some f → f ∈ r.list)
    {c : Int} (least : 0 ≤ c) (most : c ≤ b.lastIndex) :
    Sound r sources { b with cursor := c }.settle :=
  ⟨items, filtered, ⟨least, most⟩, settle_offset { b with cursor := c } least, selected⟩

theorem current_mem (sound : Sound r sources b) {i : Item} (current : b.current? = some i) :
    i.finding ∈ r.list := by
  unfold current? at current
  split at current
  · cases current
  · have member := sound.filtered.subset (List.mem_of_getElem? current)
    rw [sound.items] at member
    obtain ⟨f, listed, rfl⟩ := List.mem_map.mp member
    exact listed

theorem Sound.handled (sound : Sound r sources b) (handled : Handled b b') :
    Sound r sources b' := by
  cases handled with
  | none => exact sound
  | quit => exact ⟨sound.items, sound.filtered, sound.cursor, sound.offset, sound.selected⟩
  | select current =>
    refine ⟨sound.items, sound.filtered, sound.cursor, sound.offset, fun f chosen => ?_⟩
    exact Option.some.inj chosen ▸ current_mem sound current
  | move least most => exact sound_settle sound.items sound.filtered sound.selected least most

/- The field is no part of the invariant. -/
theorem Sound.passOn (sound : Sound r sources b) (field : TextField → Message → TextField)
    (m : Message) : Sound r sources (b.passOn field m).1 :=
  ⟨sound.items, sound.filtered, sound.cursor, sound.offset, sound.selected⟩

theorem kept_sublist (query : Bytes) (items : List Item) : (kept query items).Sublist items := by
  unfold kept
  dsimp only
  split
  · exact .refl items
  · exact List.filter_sublist

theorem Sound.applyQuery (sound : Sound r sources b) : Sound r sources b.applyQuery := by
  have filtered := kept_sublist b.input.text b.items
  obtain ⟨least, most⟩ := Window.clamp_bounds
    (lastIndex_nonneg { b with filtered := kept b.input.text b.items })
  exact sound_settle (b := { b with filtered := kept b.input.text b.items }) sound.items filtered
    sound.selected least most

/-- A message arrives, and the field answers it in any way. -/
inductive Step : Browser → Browser → Prop
  | message (b : Browser) (field : TextField → Message → TextField) (m : Message) :
      Step b (b.updateWith field m).1

def Steps : Browser → Browser → Prop := Relation.ReflTransGen Step

def Reached (r : Report) (sources : List (Bytes × Bytes)) (c : Report.Columns) (connected : Bool)
    (b : Browser) : Prop := Steps (start r sources c connected) b

theorem sound_step (step : Step b b') (sound : Sound r sources b) : Sound r sources b' := by
  obtain ⟨field, m⟩ := step
  cases m with
  | resize w h =>
    exact ⟨sound.items, sound.filtered, sound.cursor, sound.offset, sound.selected⟩
  | key k =>
    have next := sound.handled (b.handled k.name)
    rcases updateWith_key field b k with ⟨command, answered⟩ | passed
    · rw [answered]
      exact next
    · rw [passed]
      exact next.passOn field _
  | filter => exact sound.applyQuery
  | status text fault =>
    exact ⟨sound.items, sound.filtered, sound.cursor, sound.offset, sound.selected⟩

theorem height_step (step : Step b b') (word : IsWord b.height) : IsWord b'.height := by
  obtain ⟨field, m⟩ := step
  cases m with
  | resize w h => exact wrap_isWord h
  | key k =>
    have same := (b.handled k.name).frame.2.2.2
    rcases updateWith_key field b k with ⟨command, answered⟩ | passed
    · rw [answered, same]
      exact word
    · rw [passed]
      exact same ▸ word
  | filter => exact word
  | status text fault => exact word

theorem columns_step (step : Step b b') : b'.columns = b.columns := by
  obtain ⟨field, m⟩ := step
  cases m with
  | resize w h => rfl
  | key k =>
    have same := (b.handled k.name).columns
    rcases updateWith_key field b k with ⟨command, answered⟩ | passed
    · rw [answered, same]
    · rw [passed]
      exact same
  | filter => rfl
  | status text fault => rfl

variable {c : Report.Columns} {connected : Bool}

theorem sound_reached (reached : Reached r sources c connected b) : Sound r sources b := by
  induction reached with
  | refl => exact sound_start r sources c connected
  | tail _ step ih => exact sound_step step ih

theorem height_reached (reached : Reached r sources c connected b) : IsWord b.height := by
  induction reached with
  | refl => exact (by decide : IsWord 0)
  | tail _ step ih => exact height_step step ih

theorem columns_reached (reached : Reached r sources c connected b) : b.columns = widen c := by
  induction reached with
  | refl => rfl
  | tail _ step ih => rw [columns_step step, ih]

theorem steps_after (b : Browser) (ms : List Message) : Steps b (b.after ms) := by
  induction ms generalizing b with
  | nil => exact .refl
  | cons m ms ih => exact .head (.message b fieldAnswer m) (ih _)

end SpanGauge.Browser
