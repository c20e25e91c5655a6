import SpanGauge.Window
import SpanGauge.Proofs.Text.Wrap

/-! Windows stay on their lists. Whatever the numbers are that wrap on the way, the offset of a
window is never behind the cursor nor past the last full window; and for lists whose length
is a word the window is full and holds the cursor. An offset from which the window is of that
kind is left alone, so a window that has been scrolled is not scrolled again. -/
namespace SpanGauge

namespace Window

theorem clamp_bounds {v least most : Int} (order : least ≤ most) :
    least ≤ clamp v least most ∧ clamp v least most ≤ most := by
  unfold clamp
  split
  · omega
  · split <;> omega

theorem clamp_le {v least most k : Int} (low : least ≤ k) (high : v ≤ k) :
    clamp v least most ≤ k := by
  unfold clamp
  split
  · exact low
  · split <;> omega

theorem clamp_of_within {v least most : Int} (low : least ≤ v) (high : v ≤ most) :
    clamp v least most = v := by
  rw [clamp, if_neg (by omega), if_neg (by omega)]

theorem lt_clamp_add {v most cursor height : Int} (here : cursor < v + height)
    (last : cursor < most + height) : cursor < clamp v 0 most + height := by
  unfold clamp
  split
  · omega
  · split <;> omega

theorem scroll_bounds (cursor total height offset : Int) (start : 0 ≤ cursor)
    (some : 0 ≤ total) (least : 1 ≤ height) (most : height ≤ Text.largest) :
    0 ≤ scroll cursor total height offset ∧ scroll cursor total height offset ≤ cursor ∧
      scroll cursor total height offset ≤ max 0 (total - height) := by
  have range : Text.smallest = -Text.largest - 1 := rfl
  have last := wrap_le (n := total - height) (by omega)
  have behind := wrap_le (n := cursor - height + 1) (by omega)
  unfold scroll
  dsimp only
  obtain ⟨low, high⟩ := clamp_bounds (Int.le_max_left 0 (Text.wrap (total - height)))
  refine ⟨low, clamp_le start ?_, Int.le_trans high (by omega)⟩
  split
  · omega
  · split <;> omega

theorem scroll_shows (cursor total height offset : Int) (start : 0 ≤ cursor)
    (inside : cursor < total) (fits : total ≤ Text.largest) (least : 1 ≤ height)
    (most : height ≤ Text.largest) (word : IsWord offset) :
    cursor < scroll cursor total height offset + height ∧
      limit total height (scroll cursor total height offset) =
        scroll cursor total height offset + min height total := by
  have range : Text.smallest = -Text.largest - 1 := rfl
  obtain ⟨zero, _, last⟩ := scroll_bounds cursor total height offset start (by omega) least most
  have sum : Text.wrap (scroll cursor total height offset + height) =
      scroll cursor total height offset + height := wrap_of_isWord ⟨by omega, by omega⟩
  constructor
  · have full : Text.wrap (total - height) = total - height := wrap_of_isWord ⟨by omega, by omega⟩
    have behind : Text.wrap (cursor - height + 1) = cursor - height + 1 :=
      wrap_of_isWord ⟨by omega, by omega⟩
    have reach (above : Int) (low : Text.smallest ≤ above) (high : above ≤ cursor) :
        cursor < (if Text.wrap (above + height) ≤ cursor then cursor - height + 1 else above) +
          height := by
      split
      · omega
      · -- an end of the window that wrapped would have come before the cursor
        rename_i after
        by_cases beyond : Text.largest < above + height
        · have before := wrap_neg beyond (by omega)
          omega
        · rw [wrap_of_isWord ⟨by omega, by omega⟩] at after
          omega
    unfold scroll
    dsimp only
    rw [full, behind]
    have low := word.1
    exact lt_clamp_add (reach _ (by split <;> omega) (by split <;> omega)) (by omega)
  · rw [limit, sum]
    omega

/-- From this offset on, a window on the list has no need to be scrolled to the cursor. -/
structure Rests (cursor total height offset : Int) : Prop where
  least : 0 ≤ offset
  most : offset ≤ max 0 (total - height)
  behind : offset ≤ cursor
  ahead : cursor < offset + height

theorem Rests.scroll_eq {cursor total height offset : Int}
    (rests : Rests cursor total height offset) (least : 1 ≤ height)
    (some : 0 ≤ total) (fits : total ≤ Text.largest) (most : height ≤ Text.largest) :
    scroll cursor total height offset = offset := by
  have range : Text.smallest = -Text.largest - 1 := rfl
  obtain ⟨zero, last, behind, ahead⟩ := rests
  -- the end of the window is on the list or at the height, so it does not wrap
  have stop : Text.wrap (offset + height) = offset + height := wrap_of_isWord ⟨by omega, by omega⟩
  have full : Text.wrap (total - height) = total - height := wrap_of_isWord ⟨by omega, by omega⟩
  rw [scroll, if_neg (by omega : ¬ cursor < offset), stop, if_neg (by omega), full]
  exact clamp_of_within zero last

/-- What is shown of a list: as many positions as it has and the height allows, the cursor among
them; the first of them is kept. -/
structure Range.Holds (w : Range) (cursor total height : Int) : Prop where
  least : 0 ≤ w.first
  behind : w.first ≤ cursor
  ahead : cursor < w.stop
  most : w.stop ≤ total
  size : w.stop - w.first = min height total
  offset : w.offset = w.first

section Words

variable (cursor total height offset : Int) (start : 0 ≤ cursor) (inside : cursor < total)
  (fits : total ≤ Text.largest) (least : 1 ≤ height) (most : height ≤ Text.largest)
  (word : IsWord offset)

include start inside fits least most word

theorem rests_scroll : Rests cursor total height (scroll cursor total height offset) := by
  obtain ⟨zero, behind, last⟩ :=
    scroll_bounds cursor total height offset start (by omega) least most
  obtain ⟨ahead, _⟩ := scroll_shows cursor total height offset start inside fits least most word
  exact ⟨zero, last, behind, ahead⟩

theorem around_holds : (around cursor total height offset).Holds cursor total height := by
  obtain ⟨zero, last, behind, ahead⟩ :=
    rests_scroll cursor total height offset start inside fits least most word
  obtain ⟨_, stop⟩ := scroll_shows cursor total height offset start inside fits least most word
  refine ⟨zero, behind, ?_, ?_, ?_, rfl⟩ <;> simp only [around, stop] <;> omega

theorem around_again :
    around cursor total height (around cursor total height offset).offset =
      around cursor total height offset := by
  have rests := rests_scroll cursor total height offset start inside fits least most word
  have again := rests.scroll_eq least (by omega) fits most
  simp only [around, again]

end Words

end Window

/-- On a list that is not empty a window of any height shows the cursor, whatever offset it comes
from, and fills up where the list is long enough. An offset that will do is kept, and the offset
that is kept gives the same window again. All numbers are words. -/
theorem window_settles (cursor total height offset : Int) (start : 0 ≤ cursor)
    (inside : cursor < total) (fits : total ≤ Text.largest) (least : 1 ≤ height)
    (most : height ≤ Text.largest) (word : IsWord offset) :
    (Window.around cursor total height offset).Holds cursor total height ∧
      (Window.Rests cursor total height offset →
        (Window.around cursor total height offset).offset = offset) ∧
      Window.around cursor total height (Window.around cursor total height offset).offset =
        Window.around cursor total height offset := by
  refine ⟨Window.around_holds cursor total height offset start inside fits least most word, ?_,
    Window.around_again cursor total height offset start inside fits least most word⟩
  intro rests
  exact rests.scroll_eq least (by omega) fits most

/- The offset is stale on a short list; and on the longest list the end of the window wraps. -/
theorem strayWindows_settle :
    Window.around 3 7 5 40 = ⟨2, 7, 2⟩ ∧ (Window.around 3 7 5 40).Holds 3 7 5 ∧
    Window.Rests 3 7 5 1 ∧ (Window.around 3 7 5 1).offset = 1 ∧
    (Window.around (Text.largest - 5) Text.largest 10 (Text.largest - 8)).Holds
      (Text.largest - 5) Text.largest 10 ∧
    Window.around (Text.largest - 5) Text.largest 10 (Text.largest - 14) =
      Window.around (Text.largest - 5) Text.largest 10 (Text.largest - 8) := by
  have rests : Window.Rests 3 7 5 1 := ⟨by decide, by decide, by decide, by decide⟩
  obtain ⟨holds, -, -⟩ := window_settles 3 7 5 40 (by decide) (by decide) (by decide) (by decide)
    (by decide) (by decide)
  obtain ⟨-, kept, -⟩ := window_settles 3 7 5 1 (by decide) (by decide) (by decide) (by decide)
    (by decide) (by decide)
  obtain ⟨far, -, again⟩ := window_settles (Text.largest - 5) Text.largest 10 (Text.largest - 8)
    (by decide) (by decide) (by decide) (by decide) (by decide) (by decide)
  exact ⟨by decide, holds, rests, kept rests, far, again⟩

end SpanGauge
