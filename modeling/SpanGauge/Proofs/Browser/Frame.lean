import SpanGauge.Browser.View
import SpanGauge.Proofs.Style.Line
import SpanGauge.Proofs.Window.Rows

/-! The frame of the screen. Preview, list, padding and footer are whole lines, so the lines
of the screen are counted by parts; they are one or two fewer than the screen has, and the
footer makes the last three. -/
namespace SpanGauge

open Text (feed)

section Lines

variable {ls : List Bytes}

theorem count_lines (lines : ∀ l ∈ ls, feed ∉ l) :
    (ls.flatMap (· ++ [feed])).count feed = ls.length := by
  induction ls with
  | nil => rfl
  | cons l ls ih =>
    have later := ih fun m member => lines m (List.mem_cons_of_mem l member)
    rw [List.flatMap_cons, List.count_append, later, List.count_append,
      List.count_eq_zero.mpr (lines l List.mem_cons_self), List.length_cons,
      List.count_singleton_self]
    omega

theorem lineCount_lines (lines : ∀ l ∈ ls, feed ∉ l) :
    Window.lineCount (ls.flatMap (· ++ [feed])) = if ls = [] then 0 else ls.length + 1 := by
  rw [Window.lineCount, count_lines lines]
  cases ls with
  | nil => rfl
  | cons l ls => simp

theorem replicate_lines (n : Nat) :
    List.replicate n feed = (List.replicate n ([] : Bytes)).flatMap (· ++ [feed]) := by
  simp [List.flatMap_replicate]

end Lines

namespace Browser

/-- Nothing that is shown of the browser has a line feed in it: neither the texts of the findings,
whose sources are cut into lines, nor the status and the query. -/
structure OneLined (b : Browser) : Prop where
  file : ∀ i ∈ b.filtered, feed ∉ i.finding.file
  name : ∀ i ∈ b.filtered, feed ∉ i.finding.span.name
  source : ∀ i ∈ b.filtered, ∃ sources, i = Item.ofFinding sources i.finding
  status : feed ∉ b.status
  query : '\n' ∉ b.input.value

variable {b : Browser} {l : Look} {text : Bytes} {width : Int}

theorem feed_not_mem_draw {s : Style} (bare : l.theme.Bare) (drawn : s ∈ l.theme.styles)
    (line : feed ∉ text) : feed ∉ l.draw s text :=
  Style.feed_not_mem_render (bare s drawn) line

theorem lengthStyle_mem (t : Theme) (f : Finding) : Report.lengthStyle t f ∈ t.styles := by
  unfold Report.lengthStyle
  split
  · simp [Theme.styles]
  · split
    · simp [Theme.styles]
    · simp [Theme.styles]

theorem feed_not_mem_truncate (line : feed ∉ text) (limit : Int) :
    feed ∉ Report.truncate text limit := by
  have dots : feed ∉ Bytes.of "..." := by decide +kernel
  unfold Report.truncate
  split
  · exact line
  · rw [List.mem_append, not_or]
    exact ⟨fun member => line (List.mem_of_mem_take member), dots⟩

theorem feed_not_mem_padRight (line : feed ∉ text) (width : Int) : feed ∉ padRight text width := by
  rw [padRight, List.mem_append, not_or]
  exact ⟨line, feed_not_mem_spaces _⟩

theorem feed_not_mem_location {f : Finding} (file : feed ∉ f.file) : feed ∉ f.location := by
  have colon : feed ∉ [byte ':'] := by decide
  have dash : feed ∉ [byte '-'] := by decide
  simp only [Finding.location, List.mem_append, not_or]
  exact ⟨⟨⟨⟨file, colon⟩, feed_not_mem_decimal _⟩, dash⟩, feed_not_mem_decimal _⟩

theorem feed_not_mem_rule (bare : l.theme.Bare) (width : Int) : feed ∉ rule l width := by
  have bar : feed ∉ Bytes.of "─" := by decide +kernel
  refine feed_not_mem_draw bare (by simp [Theme.styles]) fun member => ?_
  obtain ⟨p, at_p, inside⟩ := List.mem_flatten.mp member
  exact bar (List.eq_of_mem_replicate at_p ▸ inside)

theorem feed_not_mem_source (tidy : b.OneLined) {i : Item} (shown : i ∈ b.filtered) :
    ∀ line ∈ i.source, feed ∉ line := by
  obtain ⟨sources, same⟩ := tidy.source i shown
  intro line member
  rw [same, Item.ofFinding] at member
  cases found : sources.find? fun s => s.1 == i.finding.path with
  | none => simp [found] at member
  | some text =>
    have piece : line ∈ Bytes.splitAt feed text.2 := by simpa [found] using member
    rw [Bytes.splitAt_eq_splitOn] at piece
    exact Bytes.not_mem_of_splitOn piece

theorem current_mem_filtered {i : Item} (current : b.current? = some i) : i ∈ b.filtered := by
  unfold current? at current
  split at current
  · cases current
  · exact List.mem_of_getElem? current

theorem feed_not_mem_title (bare : l.theme.Bare) {f : Finding} (file : feed ∉ f.file)
    (name : feed ∉ f.span.name) : feed ∉ title l f := by
  have blank : feed ∉ space := by decide
  have noun : feed ∉ Bytes.of " lines" := by decide +kernel
  have length : feed ∉ decimal f.span.count ++ Bytes.of " lines" := by
    rw [List.mem_append, not_or]
    exact ⟨feed_not_mem_decimal _, noun⟩
  simp only [title, List.mem_append, not_or]
  refine ⟨⟨⟨⟨?_, blank⟩, ?_⟩, blank⟩, ?_⟩
  · exact feed_not_mem_draw bare (by simp [Theme.styles]) (feed_not_mem_location file)
  · exact feed_not_mem_draw bare (by simp [Theme.styles]) name
  · exact feed_not_mem_draw bare (lengthStyle_mem l.theme f) length

theorem feed_not_mem_number {source : List Bytes} {first last most : Int} {r : Window.Row}
    (member : r ∈ Window.rows source first last most) : feed ∉ r.number := by
  obtain ⟨k, found⟩ := List.getElem?_of_mem member
  obtain ⟨_, -, number, -, -⟩ := Window.rows_getElem? found
  rw [number, Window.rightAligned, List.mem_append, not_or]
  exact ⟨feed_not_mem_spaces _, feed_not_mem_decimal _⟩

theorem feed_not_mem_shownText {source : List Bytes} (lines : ∀ line ∈ source, feed ∉ line)
    {first last most : Int} {r : Window.Row} (member : r ∈ Window.rows source first last most) :
    feed ∉ r.text := by
  obtain ⟨k, found⟩ := List.getElem?_of_mem member
  obtain ⟨line, at_k, -, text, -⟩ := Window.rows_getElem? found
  obtain ⟨⟨n, whole⟩, -⟩ := Window.dropReturns_bare line
  rw [text]
  intro inside
  exact lines line (List.mem_of_getElem? at_k) (whole ▸ List.mem_append_left _ inside)

theorem feed_not_mem_previewRows (tidy : b.OneLined) (bare : l.theme.Bare) (width : Int) :
    ∀ line ∈ b.previewRows l width, feed ∉ line := by
  have blank : feed ∉ space := by decide
  intro line member
  unfold previewRows at member
  split at member
  · rename_i i current
    have shown := current_mem_filtered current
    rcases List.mem_cons.mp member with rfl | later
    · exact feed_not_mem_title bare (tidy.file i shown) (tidy.name i shown)
    · obtain ⟨r, at_r, rfl⟩ := List.mem_map.mp later
      have text := feed_not_mem_shownText (feed_not_mem_source tidy shown) at_r
      simp only [sourceLine, List.mem_append, not_or]
      refine ⟨⟨?_, blank⟩, ?_⟩
      · exact feed_not_mem_draw bare (by simp [Theme.styles]) (feed_not_mem_number at_r)
      · exact feed_not_mem_truncate (Style.feed_not_mem_expandTabs text) _
  · cases member

theorem previewRows_length (b : Browser) (l : Look) (width : Int) :
    (b.previewRows l width).length ≤ previewLines.toNat := by
  unfold previewRows
  split
  · rename_i i _
    have fits : Text.smallest ≤ previewLines - 1 := by decide
    have most := Window.rows_length_le i.source i.finding.span.first i.finding.span.last fits
    simp only [List.length_cons, List.length_map]
    simp only [previewLines] at most ⊢
    omega
  · exact Nat.zero_le _

theorem preview_lines (tidy : b.OneLined) (bare : l.theme.Bare) (width : Int) :
    ∃ ls : List Bytes, b.preview l width = ls.flatMap (· ++ [feed]) ∧
      (∀ line ∈ ls, feed ∉ line) ∧ ls.length = previewLines.toNat + 1 := by
  have most := previewRows_length b l width
  refine ⟨b.previewRows l width ++
    List.replicate (previewLines.toNat - (b.previewRows l width).length) [] ++ [rule l width],
    ?_, ?_, ?_⟩
  · simp [preview, newline]
  · intro line member
    simp only [List.mem_append, List.mem_singleton] at member
    rcases member with (inside | filled) | rfl
    · exact feed_not_mem_previewRows tidy bare width line inside
    · exact List.eq_of_mem_replicate filled ▸ List.not_mem_nil
    · exact feed_not_mem_rule bare width
  · simp only [List.length_append, List.length_replicate, List.length_singleton]
    omega

/-- Between the preview and the footer the screen has what their lines leave of it, less one,
since the lines of the preview are counted and one. -/
theorem room_eq (tidy : b.OneLined) (bare : l.theme.Bare) : b.room l = max b.height 24 - 13 := by
  obtain ⟨top, preview, lines, length⟩ := preview_lines tidy bare b.screenWidth
  have some : top ≠ [] := List.ne_nil_of_length_pos (by omega)
  rw [room, preview, lineCount_lines lines, if_neg some, length]
  simp only [screenHeight, previewLines, footerLines]
  omega

theorem frame_onSelection (t : Theme) (s : Style) : (t.onSelection s).frame = s.frame := by
  unfold Theme.onSelection
  split <;> rfl

theorem feed_not_mem_row (tidy : b.OneLined) (bare : l.theme.Bare) {i : Item}
    (shown : i ∈ b.filtered) (isSelected : Bool) : feed ∉ b.row l isSelected i := by
  have marker : feed ∉ Bytes.of "▶ " := by decide +kernel
  have margin : feed ∉ Bytes.of "  " := by decide +kernel
  have note : feed ∉ Bytes.of " (allowed)" := by decide +kernel
  have draw {s : Style} {text : Bytes} (drawn : s ∈ l.theme.styles) (line : feed ∉ text) :
      feed ∉ l.draw (if isSelected then l.theme.onSelection s else s) text := by
    refine Style.feed_not_mem_render ?_ line
    split
    · rw [frame_onSelection]
      exact bare s drawn
    · exact bare s drawn
  have between : feed ∉ (if isSelected
      then l.draw l.theme.selected (Bytes.replicate b.columns.gap.toNat ' ')
      else Bytes.replicate b.columns.gap.toNat ' ') := by
    split
    · exact feed_not_mem_draw bare (by simp [Theme.styles]) (feed_not_mem_spaces _)
    · exact feed_not_mem_spaces _
  have length : feed ∉ decimal i.finding.span.count ++
      (if i.finding.allowed then Bytes.of " (allowed)" else []) := by
    rw [List.mem_append, not_or]
    refine ⟨feed_not_mem_decimal _, ?_⟩
    split
    · exact note
    · exact List.not_mem_nil
  have location := feed_not_mem_truncate (feed_not_mem_location (tidy.file i shown))
    b.columns.location
  have name := feed_not_mem_truncate (tidy.name i shown) b.columns.name
  simp only [row, List.mem_append, not_or]
  refine ⟨?_, ⟨⟨⟨?_, between⟩, ?_⟩, between⟩, ?_⟩
  · split
    · exact feed_not_mem_draw bare (by simp [Theme.styles]) marker
    · exact margin
  · exact draw (by simp [Theme.styles]) (feed_not_mem_padRight location _)
  · exact draw (by simp [Theme.styles]) (feed_not_mem_padRight name _)
  · exact draw (lengthStyle_mem l.theme i.finding) (by simpa using length)

theorem shown_length (b : Browser) (height : Int) (least : 0 ≤ height) :
    ((b.shown height).length : Int) ≤ height := by
  obtain ⟨start, -⟩ := Window.clamp_bounds
    (v := if Text.wrap ((if b.cursor < b.offset then b.cursor else b.offset) + height) ≤ b.cursor
      then Text.wrap (b.cursor - height + 1)
      else if b.cursor < b.offset then b.cursor else b.offset)
    (Int.le_max_left 0 (Text.wrap (b.filtered.length - height)))
  have first : 0 ≤ Window.scroll b.cursor b.filtered.length height b.offset := start
  have low : Text.smallest ≤ 0 := by decide
  have stop := wrap_le
    (n := Window.scroll b.cursor b.filtered.length height b.offset + height) (by omega)
  simp only [shown, shownRange, Window.around, Window.limit, List.length_drop, List.length_take,
    List.length_zipIdx]
  omega

theorem list_lines (tidy : b.OneLined) (bare : l.theme.Bare) (height : Int) :
    ∃ ls : List Bytes, b.list l height = ls.flatMap (· ++ [feed]) ∧
      (∀ line ∈ ls, feed ∉ line) ∧ ls.length = (b.shown height).length := by
  refine ⟨(b.shown height).map fun p => b.row l ((p.2 : Int) = b.cursor) p.1, ?_, ?_, ?_⟩
  · simp [list, newline, List.flatMap_map]
  · intro line member
    obtain ⟨⟨i, n⟩, at_n, rfl⟩ := List.mem_map.mp member
    have inside := List.mem_of_mem_take (List.mem_of_mem_drop at_n)
    have shown := List.fst_mem_of_mem_zipIdx inside
    exact feed_not_mem_row tidy bare shown _
  · simp

theorem feed_not_mem_info (tidy : b.OneLined) (bare : l.theme.Bare) : feed ∉ b.info l := by
  have dot : feed ∉ bullet := by decide +kernel
  have margin : feed ∉ Bytes.of "  " := by decide +kernel
  have middle : feed ∉ Bytes.of " over " := by decide +kernel
  have noun : feed ∉ Bytes.of " lines" := by decide +kernel
  have slash : feed ∉ [byte '/'] := by decide
  have enter : feed ∉ Bytes.of "Enter/Ctrl+O open" := by decide +kernel
  have copy : feed ∉ Bytes.of "Ctrl+Y copy" := by decide +kernel
  have leave : feed ∉ Bytes.of "ESC exit" := by decide +kernel
  have counts : feed ∉ b.counts := by
    simp only [Browser.counts, List.mem_append, not_or]
    exact ⟨⟨⟨⟨⟨⟨margin, feed_not_mem_decimal _⟩, slash⟩, feed_not_mem_decimal _⟩, middle⟩,
      feed_not_mem_decimal _⟩, noun⟩
  have dim {text : Bytes} (line : feed ∉ text) : feed ∉ l.draw l.theme.dim text :=
    feed_not_mem_draw bare (by simp [Theme.styles]) line
  intro member
  rcases Bytes.mem_join member with between | ⟨part, at_part, inside⟩
  · exact dot between
  simp only [List.mem_append, List.mem_cons, List.not_mem_nil, or_false] at at_part
  rcases at_part with (rfl | rfl | rfl | rfl) | status
  · exact dim counts inside
  · exact dim enter inside
  · exact dim copy inside
  · exact dim leave inside
  · split at status
    · cases status
    · rw [List.mem_singleton.mp status] at inside
      exact feed_not_mem_draw bare (by simp [Theme.styles]) tidy.status inside

def padding (b : Browser) (l : Look) : Nat :=
  (b.room l - Window.lineCount (b.list l (b.listHeight l))).toNat

theorem listHeight_eq (tidy : b.OneLined) (bare : l.theme.Bare) :
    b.listHeight l = max b.height 24 - 13 := by
  rw [listHeight, room_eq tidy bare]
  omega

/-- A list that does not fill its place is filled up to one line less, since its lines are
counted and one. -/
theorem padding_size (tidy : b.OneLined) (bare : l.theme.Bare) :
    (b.padding l : Int) + (b.shown (b.listHeight l)).length = max b.height 24 - 13 ∨
      (b.padding l : Int) + (b.shown (b.listHeight l)).length + 1 = max b.height 24 - 13 := by
  obtain ⟨ls, list, lines, length⟩ := list_lines tidy bare (b.listHeight l)
  have height := listHeight_eq tidy bare
  have fit := b.shown_length (b.listHeight l) (by omega)
  rw [← length, height] at fit
  rw [← length, padding, room_eq tidy bare, list, lineCount_lines lines]
  split
  · rename_i none
    rw [none, List.length_nil]
    omega
  · omega

theorem view_lines (running : b.quitting = false) (tidy : b.OneLined) (bare : l.theme.Bare) :
    ∃ above : List Bytes,
      Bytes.splitAt feed (b.view l) =
        above ++ [rule l b.screenWidth, b.info l, b.input.view l.profile] ∧
      above.length = previewLines.toNat + 1 + (b.shown (b.listHeight l)).length + b.padding l := by
  obtain ⟨top, preview, topLines, topLength⟩ := preview_lines tidy bare b.screenWidth
  obtain ⟨middle, list, middleLines, middleLength⟩ := list_lines tidy bare (b.listHeight l)
  refine ⟨top ++ middle ++ List.replicate (b.padding l) [], ?_, ?_⟩
  · have whole : b.view l = (top ++ middle ++ List.replicate (b.padding l) [] ++
        [rule l b.screenWidth, b.info l]).flatMap (· ++ [feed]) ++ b.input.view l.profile := by
      have blank : (b.room l - Window.lineCount (b.list l (b.listHeight l))).toNat = b.padding l :=
        rfl
      simp only [view, running, footer, blank, preview, newline, replicate_lines]
      rw [list]
      simp
    rw [whole, splitAt_lines, Bytes.splitAt_eq_splitOn,
      List.splitOn_eq_singleton (TextField.feed_not_mem_view tidy.query l.profile)]
    · simp
    · intro line member
      simp only [List.mem_append, List.mem_cons, List.not_mem_nil, or_false] at member
      rcases member with ((inTop | inMiddle) | filled) | rfl | rfl
      · exact topLines line inTop
      · exact middleLines line inMiddle
      · exact List.eq_of_mem_replicate filled ▸ List.not_mem_nil
      · exact feed_not_mem_rule bare b.screenWidth
      · exact feed_not_mem_info tidy bare
  · simp only [List.length_append, List.length_replicate, topLength, middleLength]

end Browser

open Browser in
/-- Whatever the numbers of a browser are, its screen has one or two lines less than it may
have, and the last three of them are the footer. -/
theorem frame_fits (b : Browser) (l : Look) (running : b.quitting = false) (tidy : b.OneLined)
    (flat : l.theme.Bare) :
    ∃ above : List Bytes,
      Bytes.splitAt feed (b.view l) =
        above ++ [rule l b.screenWidth, b.info l, b.input.view l.profile] ∧
      max b.height 24 - 2 ≤ above.length + 3 ∧ above.length + 3 < max b.height 24 := by
  obtain ⟨above, lines, length⟩ := view_lines running tidy flat
  have size := padding_size tidy flat
  simp only [previewLines] at length
  refine ⟨above, lines, ?_, ?_⟩
  · omega
  · omega

def strayedItem : Browser.Item :=
  .ofFinding [(Bytes.of "a.js", Bytes.of "f() \x7b\n\x7d\r")]
    ⟨Bytes.of "a.js", Bytes.of "a.js", Span.ofLines (Bytes.of "f") 1 2, true, false, []⟩

/-- A screen of less than no lines, and a window that starts before its list. -/
def strayed : Browser where
  width := -1
  height := -9
  items := [strayedItem]
  filtered := [strayedItem]
  cursor := 0
  offset := -3
  columns := ⟨1, 8, 4⟩
  threshold := 1
  status := Bytes.of "copied"

theorem strayed_framed :
    strayed.quitting = false ∧ strayed.OneLined ∧ Theme.standard.Bare ∧
      (Bytes.splitAt feed (strayed.view ⟨.standard, .ascii⟩)).length = 22 ∧
      ∃ above : List Bytes,
        Bytes.splitAt feed (strayed.view ⟨.standard, .ascii⟩) =
          above ++ [Browser.rule ⟨.standard, .ascii⟩ strayed.screenWidth,
            strayed.info ⟨.standard, .ascii⟩, strayed.input.view .ascii] ∧
        max strayed.height 24 - 2 ≤ above.length + 3 ∧ above.length + 3 < max strayed.height 24 := by
  have running : strayed.quitting = false := by decide +kernel
  have tidy : strayed.OneLined := by
    constructor
    · decide +kernel
    · decide +kernel
    · intro i member
      obtain rfl : i = strayedItem := List.mem_singleton.mp member
      exact ⟨_, rfl⟩
    · decide +kernel
    · decide +kernel
  exact ⟨running, tidy, Theme.bare_standard, by decide +kernel,
    frame_fits strayed ⟨.standard, .ascii⟩ running tidy Theme.bare_standard⟩

end SpanGauge
