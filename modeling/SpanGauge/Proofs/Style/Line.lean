import SpanGauge.TextField
import SpanGauge.Theme
import SpanGauge.Proofs.Text.Lines
import SpanGauge.Proofs.Text.Number

/-! Drawn lines. A style without a frame puts codes around a text, and none of them has a
line feed, so what is drawn of one line stays on one line. The same holds of the field. -/
namespace SpanGauge

open Text (feed)

theorem Bytes.mem_join {b : UInt8} {sep : Bytes} {parts : List Bytes}
    (member : b ∈ Bytes.join sep parts) : b ∈ sep ∨ ∃ p ∈ parts, b ∈ p := by
  induction parts with
  | nil => cases member
  | cons p parts ih =>
    cases parts with
    | nil => exact .inr ⟨p, by simp, by simpa [Bytes.join] using member⟩
    | cons q parts =>
      have split : Bytes.join sep (p :: q :: parts) = p ++ (sep ++ Bytes.join sep (q :: parts)) := by
        simp [Bytes.join]
      rw [split, List.mem_append, List.mem_append] at member
      rcases member with here | between | later
      · exact .inr ⟨p, by simp, here⟩
      · exact .inl between
      · rcases ih later with between | ⟨r, at_r, inside⟩
        · exact .inl between
        · exact .inr ⟨r, List.mem_cons_of_mem p at_r, inside⟩

theorem feed_not_mem_decimal (n : Int) : feed ∉ decimal n := by
  have digits : ∀ m : Nat, feed ∉ decimal m := fun m member =>
    absurd (digits_decimal (Int.natCast_nonneg m) feed member) (by decide)
  cases n with
  | ofNat m => exact digits m
  | negSucc m =>
    rw [decimal_neg, List.mem_cons, not_or]
    exact ⟨by decide, digits (m + 1)⟩

theorem feed_not_mem_spaces (n : Nat) : feed ∉ Bytes.replicate n ' ' := fun member =>
  absurd (List.eq_of_mem_replicate member) (by decide)

theorem Text.feed_of_mem_encode {c : Char} (member : feed ∈ encode c) : c = '\n' := by
  have value : ∀ n : Nat, feed = UInt8.ofNat n → n % 256 = 10 := by
    intro n same
    have number := congrArg UInt8.toNat same
    rw [UInt8.toNat_ofNat'] at number
    exact number.symm
  unfold encode String.utf8EncodeChar at member
  dsimp only at member
  split at member
  · have number := value _ (List.mem_singleton.mp member)
    have small : c.val.toNat = 10 := by omega
    exact Char.ext (UInt32.toNat_inj.mp small)
  -- the bytes of all longer encodings are from 128 on
  · exfalso
    split_ifs at member
    all_goals
      simp only [List.mem_cons, List.not_mem_nil, or_false] at member
    · rcases member with same | same
      all_goals
        have number := value _ same
        omega
    · rcases member with same | same | same
      all_goals
        have number := value _ same
        omega
    · rcases member with same | same | same | same
      all_goals
        have number := value _ same
        omega

theorem Text.feed_not_mem_ofChars {cs : List Char} (line : '\n' ∉ cs) : feed ∉ ofChars cs := by
  intro member
  obtain ⟨c, at_c, inside⟩ := List.mem_flatMap.mp member
  exact line (feed_of_mem_encode inside ▸ at_c)

namespace Style

variable {profile : Profile} {text : Bytes}

theorem feed_not_mem_colourCodes {ground : Int} {code codes : Bytes}
    (found : colourCodes profile ground code = some codes) : feed ∉ codes := by
  have rgb : feed ∉ Bytes.of ";2;" := by decide +kernel
  have index : feed ∉ Bytes.of ";5;" := by decide +kernel
  have apart : feed ∉ semicolon := by decide
  unfold colourCodes at found
  split at found
  · cases found
  split at found
  · split at found
    · obtain ⟨channels, -, rfl⟩ := Option.map_eq_some_iff.mp found
      have numbers : feed ∉ Bytes.join semicolon
          (channels.map fun x => decimal (x * 255).toUInt8.toNat) := by
        intro member
        rcases Bytes.mem_join member with between | ⟨p, at_p, inside⟩
        · exact apart between
        · obtain ⟨x, -, rfl⟩ := List.mem_map.mp at_p
          exact feed_not_mem_decimal _ inside
      simp only [List.mem_append, not_or]
      exact ⟨⟨feed_not_mem_decimal _, rgb⟩, numbers⟩
    · cases found
  · obtain ⟨i, -, rfl⟩ := Option.map_eq_some_iff.mp found
    split_ifs
    · exact feed_not_mem_decimal _
    · exact feed_not_mem_decimal _
    · simp only [List.mem_append, not_or]
      exact ⟨⟨feed_not_mem_decimal _, index⟩, feed_not_mem_decimal _⟩

theorem feed_not_mem_colour (colour : Option Bytes) (ground : Int) :
    ∀ c ∈ ((colour.bind (colourCodes profile ground)).map fun c => [c]).getD [], feed ∉ c := by
  intro c member
  cases found : colour.bind (colourCodes profile ground) with
  | none => simp [found] at member
  | some codes =>
    obtain ⟨code, -, coloured⟩ := Option.bind_eq_some_iff.mp found
    have same : c = codes := by simpa [found] using member
    exact same ▸ feed_not_mem_colourCodes coloured

theorem feed_not_mem_codes (s : Style) (profile : Profile) : ∀ c ∈ s.codes profile, feed ∉ c := by
  have bold : feed ∉ Bytes.of "1" := by decide +kernel
  have reverse : feed ∉ Bytes.of "7" := by decide +kernel
  intro c member
  unfold codes at member
  split at member
  · cases member
  simp only [List.mem_append] at member
  rcases member with ((member | member) | member) | member
  · split at member
    · exact List.mem_singleton.mp member ▸ bold
    · cases member
  · split at member
    · exact List.mem_singleton.mp member ▸ reverse
    · cases member
  · exact feed_not_mem_colour s.foreground 30 c member
  · exact feed_not_mem_colour s.background 40 c member

theorem feed_not_mem_wrapped {codes : List Bytes} (clear : ∀ c ∈ codes, feed ∉ c)
    (line : feed ∉ text) : feed ∉ wrapped codes text := by
  have start : feed ∉ Bytes.of "\x1b[" := by decide +kernel
  have mark : feed ∉ Bytes.of "m" := by decide +kernel
  have reset : feed ∉ Bytes.of "\x1b[0m" := by decide +kernel
  have numbers : feed ∉ Bytes.join semicolon codes := by
    intro member
    rcases Bytes.mem_join member with between | ⟨c, at_c, inside⟩
    · exact absurd between (by decide)
    · exact clear c at_c inside
  unfold wrapped
  split
  · exact line
  · simp only [List.mem_append, not_or]
    exact ⟨⟨⟨⟨start, numbers⟩, mark⟩, line⟩, reset⟩

theorem feed_not_mem_expandTabs (line : feed ∉ text) : feed ∉ expandTabs text := by
  intro member
  obtain ⟨b, at_b, inside⟩ := List.mem_flatMap.mp member
  split at inside
  · exact feed_not_mem_spaces 4 inside
  · exact line (List.mem_singleton.mp inside ▸ at_b)

theorem mem_of_mem_dropReturns {b : UInt8} (member : b ∈ dropReturns text) : b ∈ text := by
  fun_induction dropReturns text with
  | case1 rest ih =>
    rcases List.mem_cons.mp member with rfl | later
    · simp
    · simp [ih later]
  | case2 c rest _ ih =>
    rcases List.mem_cons.mp member with rfl | later
    · simp
    · simp [ih later]
  | case3 => cases member

/-- What a style without a frame draws of one line is one line. -/
theorem feed_not_mem_render {s : Style} (bare : s.frame = none) (line : feed ∉ text) :
    feed ∉ s.render profile text := by
  have expanded := feed_not_mem_expandTabs line
  unfold render
  split
  · exact expanded
  have whole : feed ∉ dropReturns (expandTabs text) := fun member =>
    expanded (mem_of_mem_dropReturns member)
  have single : Bytes.splitAt (byte '\n') (dropReturns (expandTabs text)) =
      [dropReturns (expandTabs text)] := by
    rw [Bytes.splitAt_eq_splitOn]
    exact List.splitOn_eq_singleton whole
  have drawn := feed_not_mem_wrapped (s.feed_not_mem_codes profile) whole
  simpa [single, bare, Bytes.join] using drawn

end Style

namespace Theme

def styles (t : Theme) : List Style :=
  [t.path, t.name, t.violation, t.excused, t.dim, t.header, t.selected, t.cursor, t.divider]

def Bare (t : Theme) : Prop := ∀ s ∈ t.styles, s.frame = none

instance (t : Theme) : Decidable t.Bare := inferInstanceAs (Decidable (∀ s ∈ t.styles, _))

theorem bare_standard : standard.Bare := by decide +kernel

theorem bare_ofColours (c : Colours) : (ofColours c).Bare := by
  simp [Bare, styles, ofColours, coloured]

end Theme

namespace TextField

variable {f : TextField}

theorem feed_not_mem_emptyView (f : TextField) (p : Style.Profile) : feed ∉ f.emptyView p := by
  have front : feed ∉ lead := by decide +kernel
  have hint : feed ∉ Bytes.of placeholder := by decide +kernel
  have inverted : feed ∉ reversed.render p ((Bytes.of placeholder).take 1) :=
    Style.feed_not_mem_render rfl fun member => hint (List.mem_of_mem_take member)
  have dimmed : ∀ n, feed ∉ faint.render p (((Bytes.of placeholder).take n).drop 1) := fun n =>
    Style.feed_not_mem_render rfl fun member =>
      hint (List.mem_of_mem_take (List.mem_of_mem_drop member))
  have filled : ∀ n, feed ∉ faint.render p (spaces n) := fun n =>
    Style.feed_not_mem_render rfl (feed_not_mem_spaces n.toNat)
  simp only [emptyView, List.mem_append, not_or]
  refine ⟨⟨⟨front, inverted⟩, dimmed _⟩, ?_⟩
  split
  · exact filled _
  · exact List.not_mem_nil

theorem feed_not_mem_view (line : '\n' ∉ f.value) (p : Style.Profile) : feed ∉ f.view p := by
  unfold view
  split
  · exact f.feed_not_mem_emptyView p
  have front : feed ∉ lead := by decide +kernel
  have window : '\n' ∉ (f.value.take f.last).drop f.first := fun member =>
    line (List.mem_of_mem_take (List.mem_of_mem_drop member))
  have before : ∀ n, feed ∉ Text.ofChars (((f.value.take f.last).drop f.first).take n) := fun n =>
    Text.feed_not_mem_ofChars fun member => window (List.mem_of_mem_take member)
  have behind : ∀ n, feed ∉ Text.ofChars (((f.value.take f.last).drop f.first).drop n) := fun n =>
    Text.feed_not_mem_ofChars fun member => window (List.mem_of_mem_drop member)
  simp only [List.mem_append, not_or]
  refine ⟨⟨⟨⟨front, before _⟩, Style.feed_not_mem_render rfl ?_⟩, behind _⟩,
    feed_not_mem_spaces _⟩
  split
  · rename_i c here
    intro member
    exact window (Text.feed_of_mem_encode member ▸ List.mem_of_getElem? here)
  · decide

end TextField

end SpanGauge
