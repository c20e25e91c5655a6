import SpanGauge.Proofs.Browser.Invariant
import SpanGauge.Proofs.Browser.Row

/-! What is drawn of the list. The screen scrolls once more, by its own height, and shows a
full window on the filtered items with the row of the cursor in it, the only one with the mark. -/
namespace SpanGauge

namespace Browser

/- A stretch of a list around one of its elements. -/
theorem exists_window {α : Type} (l : List α) (first c stop : Nat) (low : first ≤ c)
    (high : c < stop) (bound : stop ≤ l.length) :
    ∃ before above here below after, l = before ++ (above ++ here :: below) ++ after ∧
      before.length = first ∧ first + above.length = c ∧
      (above ++ here :: below).length = stop - first := by
  have length : ((l.take stop).drop first).length = stop - first := by
    rw [List.length_drop, List.length_take]
    omega
  have some : ((l.take stop).drop first).drop (c - first) ≠ [] := by
    apply List.ne_nil_of_length_pos
    rw [List.length_drop]
    omega
  obtain ⟨here, below, rest⟩ := List.exists_cons_of_ne_nil some
  have window : ((l.take stop).drop first).take (c - first) ++ here :: below =
      (l.take stop).drop first := by
    rw [← rest, List.take_append_drop]
  refine ⟨l.take first, _, here, below, l.drop stop, ?_, ?_, ?_, by rw [window, length]⟩
  · have front : l.take first = (l.take stop).take first := by
      rw [List.take_take, Nat.min_eq_left (by omega)]
    rw [window, front, List.take_append_drop, List.take_append_drop]
  · rw [List.length_take]
    omega
  · rw [List.length_take]
    omega

/-- A stretch of the filtered items around the one of the cursor, each with its row. -/
structure Picture where
  before : List Item
  above : List (Item × Bytes)
  here : Item × Bytes
  below : List (Item × Bytes)
  after : List Item

def Picture.shown (p : Picture) : List (Item × Bytes) := p.above ++ p.here :: p.below

/-- The screen shows the stretch between preview and footer. It is as long as there is room for,
and each row is that of its finding; the one at the cursor is drawn as selected and has the mark,
which no other row has. -/
structure Pictures (b : Browser) (c : Report.Columns) (l : Look) (p : Picture) : Prop where
  filtered : b.filtered = p.before ++ p.shown.map Prod.fst ++ p.after
  cursor : ((p.before.length + p.above.length : Nat) : Int) = b.cursor
  size : (p.shown.length : Int) = min (b.listHeight l) b.filtered.length
  selected : Draws c l p.here.1.finding true p.here.2
  others : ∀ d ∈ p.above ++ p.below, Draws c l d.1.finding false d.2
  marked : l.mark <+: p.here.2
  unmarked : ∀ d ∈ p.above ++ p.below, ¬ l.mark <+: d.2
  view : ∃ padding, b.view l = b.preview l b.screenWidth ++
    p.shown.flatMap (fun d => d.2 ++ newline) ++ List.replicate padding Text.feed ++
    b.footer l b.screenWidth

def Shows (b : Browser) (c : Report.Columns) (l : Look) : Prop := ∃ p, b.Pictures c l p

def rows (b : Browser) (l : Look) (isSelected : Bool) (items : List Item) : List (Item × Bytes) :=
  items.map fun i => (i, b.row l isSelected i)

@[simp] theorem rows_fst (b : Browser) (l : Look) (isSelected : Bool) (items : List Item) :
    (b.rows l isSelected items).map Prod.fst = items := by
  simp [rows, Function.comp_def]

@[simp] theorem rows_length (b : Browser) (l : Look) (isSelected : Bool) (items : List Item) :
    (b.rows l isSelected items).length = items.length := List.length_map _

theorem rows_apart (b : Browser) (l : Look) (items : List Item) (first : Nat)
    (apart : ∀ n : Nat, first ≤ n → n < first + items.length → (n : Int) ≠ b.cursor) :
    ((items.zipIdx first).flatMap fun (i, n) => b.row l ((n : Int) = b.cursor) i ++ newline) =
      (b.rows l false items).flatMap fun d => d.2 ++ newline := by
  induction items generalizing first with
  | nil => rfl
  | cons i items ih =>
    have here := apart first (Nat.le_refl _) (by simp)
    have rest := ih (first + 1) fun n low high => apart n (by omega) (by simp; omega)
    rw [List.zipIdx_cons, List.flatMap_cons, rest]
    simp [rows, here]

theorem list_window {b : Browser} (l : Look) {height : Int} {before above below after : List Item}
    {here : Item} (filtered : b.filtered = before ++ (above ++ here :: below) ++ after)
    (range : b.shownRange height =
      ((before.length : Int), ((before.length + (above ++ here :: below).length : Nat) : Int)))
    (cursor : ((before.length + above.length : Nat) : Int) = b.cursor) :
    b.list l height = (b.rows l false above ++ (here, b.row l true here) ::
      b.rows l false below).flatMap fun d => d.2 ++ newline := by
  have shown : b.shown height = (above ++ here :: below).zipIdx before.length := by
    unfold shown
    rw [range, filtered]
    dsimp only
    rw [Int.toNat_natCast, Int.toNat_natCast, List.zipIdx_append, List.zipIdx_append,
      List.take_left' (by simp), List.drop_left' (by simp), Nat.zero_add]
  unfold list
  rw [shown, List.zipIdx_append, List.zipIdx_cons, List.flatMap_append, List.flatMap_cons,
    b.rows_apart l above _ (fun n low high => by omega),
    b.rows_apart l below _ (fun n low high => by omega), List.flatMap_append, List.flatMap_cons]
  simp [cursor]

/- All but the row at the cursor are drawn as rows of the others. -/
theorem draws_rows {b : Browser} {c : Report.Columns} (columns : b.columns = widen c) (l : Look)
    (items : List Item) {d : Item × Bytes} (member : d ∈ b.rows l false items) :
    Draws c l d.1.finding false d.2 := by
  obtain ⟨i, -, rfl⟩ := List.mem_map.mp member
  exact draws_row columns l false i

variable {b : Browser} {r : Report} {sources : List (Bytes × Bytes)} {c : Report.Columns}

theorem listHeight_bounds (l : Look) (word : IsWord b.height) :
    1 ≤ b.listHeight l ∧ b.listHeight l ≤ Text.largest := by
  have large : (24 : Int) ≤ Text.largest := by decide
  have most := word.2
  simp only [listHeight, room, screenHeight, footerLines]
  omega

theorem Sound.shows (sound : Sound r sources b) (fits : (r.list.length : Int) ≤ Text.largest)
    (word : IsWord b.height) (columns : b.columns = widen c) (running : b.quitting = false)
    (some : b.filtered ≠ []) (l : Look) : b.Shows c l := by
  obtain ⟨least, most⟩ := listHeight_bounds l word
  have length : b.filtered.length ≤ r.list.length := by
    have shorter := sound.filtered.length_le
    rwa [sound.items, List.length_map] at shorter
  have positive := List.length_pos_iff.mpr some
  have cursor := sound.cursor
  have offset := sound.offset
  have low : Text.smallest ≤ 0 := by decide
  obtain ⟨zero, behind, last⟩ := Window.scroll_bounds b.cursor b.filtered.length (b.listHeight l)
    b.offset cursor.1 (by omega) least most
  obtain ⟨ahead, stop⟩ := Window.scroll_shows b.cursor b.filtered.length (b.listHeight l) b.offset
    cursor.1 (by omega) (by omega) least most ⟨by omega, by omega⟩
  have range : b.shownRange (b.listHeight l) =
      (Window.scroll b.cursor b.filtered.length (b.listHeight l) b.offset,
        Window.scroll b.cursor b.filtered.length (b.listHeight l) b.offset +
          min (b.listHeight l) b.filtered.length) := by
    rw [← stop]
    rfl
  generalize Window.scroll b.cursor b.filtered.length (b.listHeight l) b.offset = first at *
  obtain ⟨first, rfl⟩ := Int.eq_ofNat_of_zero_le zero
  obtain ⟨size, size_eq⟩ := Int.eq_ofNat_of_zero_le
    (a := min (b.listHeight l) b.filtered.length) (by omega)
  obtain ⟨before, above, here, below, after, filtered, start, place, size'⟩ :=
    exists_window b.filtered first b.cursor.toNat (first + size) (by omega) (by omega) (by omega)
  have at_cursor : ((before.length + above.length : Nat) : Int) = b.cursor := by omega
  have whole : (above ++ here :: below).length = size := by omega
  have selected := draws_row columns l true here
  have others : ∀ d ∈ b.rows l false above ++ b.rows l false below,
      Draws c l d.1.finding false d.2 := fun d member =>
    (List.mem_append.mp member).elim (draws_rows columns l above) (draws_rows columns l below)
  refine ⟨⟨before, b.rows l false above, (here, b.row l true here), b.rows l false below, after⟩,
    ?filtered, ?cursor, ?size, selected, others, selected.mark_isPrefix.mpr rfl, ?unmarked, ?view⟩
  case filtered => simp [filtered, Picture.shown]
  case cursor => rw [rows_length, at_cursor]
  case size =>
    rw [size_eq, ← whole]
    simp [Picture.shown]
  case unmarked =>
    exact fun d member => Bool.false_ne_true ∘ (others d member).mark_isPrefix.mp
  case view =>
    have middle := list_window l filtered (by rw [range, size_eq, start, whole]; rfl) at_cursor
    refine ⟨(b.room l - Window.lineCount (b.list l (b.listHeight l))).toNat, ?_⟩
    rw [view, running, if_neg (by simp), Picture.shown, ← middle]

end Browser

/-- Every state of the browser is sound, whatever messages arrive and however the field answers
them; and until it quits the screen shows a window on the filtered items around the cursor.
The length of a report is a word. -/
theorem browser_states_sound (r : Report) (sources : List (Bytes × Bytes)) (c : Report.Columns)
    (connected : Bool) (b : Browser) (reached : Browser.Reached r sources c connected b) :
    b.Sound r sources ∧
      ((r.list.length : Int) ≤ Text.largest → b.quitting = false → b.filtered ≠ [] →
        ∀ l : Browser.Look, b.Shows c l) := by
  have sound := Browser.sound_reached reached
  exact ⟨sound, fun fits running some l =>
    sound.shows fits (Browser.height_reached reached) (Browser.columns_reached reached) running
      some l⟩

def longReport : Report where
  threshold := 0
  files := 1
  functions := 20
  violations := 20
  excused := 0
  findings := some ((List.range 20).map fun n =>
    { file := Bytes.of "a.js", path := Bytes.of "a.js", exceeds := true, allowed := false,
      span := Span.ofLines (Bytes.of "f") (n + 1) (n + 1), rule := [] })

/- To the end of the list, a screen of no height, a query that comes late, and one up again. -/
def longVisit : Browser :=
  (Browser.start longReport [] {} true).after
    [.key ⟨Bytes.of "end", []⟩, .resize 3 (-7), .filter, .key ⟨Bytes.of "up", []⟩]

theorem longVisit_shown :
    Browser.Reached longReport [] {} true longVisit ∧ longVisit.cursor = 18 ∧
      longVisit.offset = 17 ∧ longVisit.Sound longReport [] ∧
      longVisit.Shows {} ⟨.standard, .ascii⟩ := by
  have reached : Browser.Reached longReport [] {} true longVisit := Browser.steps_after _ _
  obtain ⟨sound, shows⟩ := browser_states_sound longReport [] {} true longVisit reached
  exact ⟨reached, by decide +kernel, by decide +kernel, sound,
    shows (by decide) (by decide +kernel) (by decide +kernel) _⟩

end SpanGauge
