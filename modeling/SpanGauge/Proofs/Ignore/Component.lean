import Mathlib.Data.List.Infix
import SpanGauge.Proofs.Ignore.Wildcard
import SpanGauge.Proofs.FileTree.Parts

/-! Patterns without a slash. Such a pattern may begin at any component of a path and has to
end with one, so it applies where its words are stretches of whole components. It applies
component by component exactly as far as none of its pieces reads a slash: the wildcards
never do, but a bracket expression may. -/
namespace SpanGauge

section Stretches

variable {α : Type}

theorem intercalate_append {sep : α} {ls ms : List (List α)} (some : ls ≠ []) (more : ms ≠ []) :
    [sep].intercalate (ls ++ ms) = [sep].intercalate ls ++ sep :: [sep].intercalate ms := by
  induction ls with
  | nil => exact absurd rfl some
  | cons l ls ih =>
    by_cases last : ls = []
    · rw [last, List.singleton_append, List.intercalate_cons_of_ne_nil more,
        List.intercalate_singleton, List.append_assoc, List.singleton_append]
    · rw [List.cons_append, List.intercalate_cons_of_ne_nil (by simp [last]), ih last,
        List.intercalate_cons_of_ne_nil last]
      simp only [List.append_assoc]

/-- A part of a list is a stretch of whole pieces when it begins at the front or behind a
separator, and ends at the end or before one. -/
theorem splitOn_infix_iff [BEq α] [LawfulBEq α] {sep : α} {l part : List α} :
    part.splitOn sep <:+: l.splitOn sep ↔
      ∃ before after, l = before ++ part ++ after ∧ (before = [] ∨ ∃ t, before = t ++ [sep]) ∧
        (after = [] ∨ ∃ t, after = sep :: t) := by
  constructor
  · rintro ⟨pre, post, split⟩
    have joined := congrArg [sep].intercalate split
    rw [List.intercalate_splitOn] at joined
    have some : part.splitOn sep ≠ [] := List.splitOn_ne_nil sep part
    -- the pieces in front, if there are any, come back with a separator behind them
    have front : ∃ before, (before = [] ∨ ∃ t, before = t ++ [sep]) ∧
        [sep].intercalate (pre ++ part.splitOn sep) = before ++ part := by
      by_cases first : pre = []
      · exact ⟨[], .inl rfl, by rw [first, List.nil_append, List.intercalate_splitOn]; rfl⟩
      · refine ⟨[sep].intercalate pre ++ [sep], .inr ⟨_, rfl⟩, ?_⟩
        rw [intercalate_append first some, List.intercalate_splitOn, List.append_assoc,
          List.singleton_append]
    obtain ⟨before, starts, front⟩ := front
    by_cases last : post = []
    · rw [last, List.append_nil, front] at joined
      exact ⟨before, [], by rw [← joined, List.append_nil], starts, .inl rfl⟩
    · rw [intercalate_append (by simp [some]) last, front] at joined
      exact ⟨before, _, joined.symm, starts, .inr ⟨_, rfl⟩⟩
  · rintro ⟨before, after, rfl, starts, ends⟩
    have within : part.splitOn sep <+: (part ++ after).splitOn sep := by
      rcases ends with rfl | ⟨t, rfl⟩
      · rw [List.append_nil]
      · rw [List.splitOn_append_cons_self]
        exact List.prefix_append ..
    rw [List.append_assoc]
    rcases starts with rfl | ⟨t, rfl⟩
    · exact within.isInfix
    · rw [List.append_assoc, List.singleton_append, List.splitOn_append_cons_self]
      exact within.isInfix.trans (List.suffix_append ..).isInfix

end Stretches

section Components

variable {p c : Bytes}

theorem Text.slash_of_mem_chars (member : '/' ∈ Text.chars c) : Path.slash ∈ c :=
  Text.mem_of_mem_chars (a := Path.slash) (by decide) member

theorem Text.chars_slash (p c : Bytes) :
    Text.chars (p ++ Path.slash :: c) = Text.chars p ++ '/' :: Text.chars c :=
  Text.chars_append (by decide) p c

theorem Text.chars_join {cs : List Bytes} (some : cs ≠ []) :
    Text.chars (Bytes.join [Path.slash] cs) = ['/'].intercalate (cs.map Text.chars) := by
  induction cs with
  | nil => exact absurd rfl some
  | cons c cs ih =>
    by_cases last : cs = []
    · rw [last, Path.join_singleton, List.map_singleton, List.intercalate_singleton]
    · rw [Path.join_cons last, Text.chars_slash, ih last, List.map_cons,
        List.intercalate_cons_of_ne_nil (by simp [last]), List.append_assoc, List.singleton_append]

theorem Text.splitOn_chars (p : Bytes) :
    (Text.chars p).splitOn '/' = (Path.parts p).map Text.chars := by
  have whole : ∀ cs ∈ (Path.parts p).map Text.chars, '/' ∉ cs := by
    intro cs member
    obtain ⟨c, at_c, rfl⟩ := List.mem_map.mp member
    exact fun slash => Path.parts_whole at_c (Text.slash_of_mem_chars slash)
  have joined := Text.chars_join (Path.parts_ne_nil p)
  rw [Path.join_parts] at joined
  rw [joined, List.splitOn_intercalate '/' whole (by simp [Path.parts_ne_nil])]

theorem Path.exists_stretch {part : List Char}
    (inside : part.splitOn '/' <:+: (Path.parts p).map Text.chars) :
    ∃ q, Path.parts q <:+: Path.parts p ∧ Text.chars q = part := by
  obtain ⟨cs, stretch, chars⟩ := List.infix_map_iff.mp inside
  have some : cs ≠ [] := by
    rintro rfl
    exact List.splitOn_ne_nil '/' part chars
  refine ⟨Bytes.join [Path.slash] cs, ?_, ?_⟩
  · rwa [Path.parts_join some fun c member => Path.parts_whole (stretch.subset member)]
  · rw [Text.chars_join some, ← chars, List.intercalate_splitOn]

theorem Path.mem_parts_iff (whole : Path.slash ∉ c) :
    c ∈ Path.parts p ↔ Path.parts c <:+: Path.parts p := by
  rw [Path.parts_of_whole whole, List.singleton_infix_iff]

theorem Path.parts_subset (member : c ∈ Path.parts p) : c ⊆ p := by
  have stretch := (Path.mem_parts_iff (Path.parts_whole member)).mp member
  rw [Path.parts, Path.parts, Bytes.splitAt_eq_splitOn, Bytes.splitAt_eq_splitOn] at stretch
  obtain ⟨before, after, rfl, -⟩ := splitOn_infix_iff.mp stretch
  exact (List.infix_append before c after).subset

end Components

namespace Ignore

def Piece.takesSlash : Piece → Bool
  | .one s => s.has '/'
  | .run s => s.has '/'
  | .folders => true

theorem Piece.derives_whole {p : Piece} (refuses : p.takesSlash = false) {w : List Char}
    (derives : p.pattern.Derives w) : '/' ∉ w := by
  intro slash
  cases p with
  | one s =>
    obtain ⟨c, has, rfl⟩ := Pattern.derives_one.mp derives
    rw [← List.mem_singleton.mp slash, show s.has '/' = false from refuses] at has
    cases has
  | run s =>
    have has := Pattern.derives_many.mp derives '/' slash
    rw [show s.has '/' = false from refuses] at has
    cases has
  | folders => cases refuses

theorem spelled_whole {ps : List Piece} (refuse : ∀ p ∈ ps, p.takesSlash = false) {w : List Char}
    (spelled : Spelled ps w) : '/' ∉ w := by
  induction ps generalizing w with
  | nil => simp [spelled_nil.mp spelled]
  | cons p ps ih =>
    obtain ⟨u, v, rfl, first, rest⟩ := spelled_cons.mp spelled
    rw [List.mem_append, not_or]
    exact ⟨Piece.derives_whole (refuse p List.mem_cons_self) first,
      ih (fun q member => refuse q (List.mem_cons_of_mem p member)) rest⟩

structure Line.Loose (l : Line) : Prop where
  floating : l.anchored = false
  any : l.foldersOnly = false

section Loose

variable {l : Line} {path : Bytes}

theorem Line.Loose.applies_stretch (loose : l.Loose) (oneLine : Text.feed ∉ path) (folder : Bool) :
    l.applies (Text.chars path) folder = true ↔
      ∃ q, Path.parts q <:+: Path.parts path ∧ Spelled l.pieces (Text.chars q) := by
  rw [l.applies_iff, loose.any]
  simp only [Bool.false_eq_true, false_and, not_false_eq_true, and_true]
  have begins : ∀ before, l.Begins before ↔ before = [] ∨ ∃ t, before = t ++ ['/'] := by
    intro before
    simp only [Line.Begins, loose.floating, true_and]
  constructor
  · rintro ⟨before, part, after, split, starts, spelled, ends⟩
    have tail : after = [] ∨ ∃ t, after = '/' :: t := by
      cases after with
      | nil => exact .inl rfl
      | cons c rest => exact .inr ⟨rest, by rw [(ends c rest rfl).1]⟩
    have inside := splitOn_infix_iff.mpr ⟨before, after, split, (begins before).mp starts, tail⟩
    rw [Text.splitOn_chars] at inside
    obtain ⟨q, stretch, rfl⟩ := Path.exists_stretch inside
    exact ⟨q, stretch, spelled⟩
  · rintro ⟨q, stretch, spelled⟩
    have inside : (Text.chars q).splitOn '/' <:+: (Text.chars path).splitOn '/' := by
      rw [Text.splitOn_chars, Text.splitOn_chars]
      exact stretch.map Text.chars
    obtain ⟨before, after, split, starts, tail⟩ := splitOn_infix_iff.mp inside
    refine ⟨before, _, after, split, (begins before).mpr starts, spelled, ?_⟩
    rw [ends_iff]
    · rcases tail with rfl | ⟨t, rfl⟩
      · exact .inl rfl
      · exact .inr rfl
    · exact fun feed => oneLine (Text.feed_of_mem_chars (by simp [split, feed]))

theorem Line.Loose.applies_component (loose : l.Loose)
    (refuse : ∀ p ∈ l.pieces, p.takesSlash = false) (oneLine : Text.feed ∉ path) (folder : Bool) :
    l.applies (Text.chars path) folder = true ↔
      ∃ c ∈ Path.parts path, Spelled l.pieces (Text.chars c) := by
  rw [loose.applies_stretch oneLine]
  constructor
  · rintro ⟨q, stretch, spelled⟩
    -- between two components of the stretch there would be a slash to read
    have whole : Path.slash ∉ q := by
      intro slash
      obtain ⟨a, b, rfl⟩ := List.append_of_mem slash
      exact spelled_whole refuse spelled (by simp [Text.chars_slash])
    exact ⟨q, (Path.mem_parts_iff whole).mpr stretch, spelled⟩
  · rintro ⟨c, member, spelled⟩
    exact ⟨c, (Path.mem_parts_iff (Path.parts_whole member)).mp member, spelled⟩

end Loose

theorem Token.read_refuses {cs : List Char} (whole : '/' ∉ cs) (stars : ¬ ['*', '*'] <:+: cs) :
    ∀ t ∈ read cs, t.piece.takesSlash = false := by
  have tail {c : Char} {rest : List Char} (whole : '/' ∉ c :: rest)
      (stars : ¬ ['*', '*'] <:+: c :: rest) : '/' ∉ rest ∧ ¬ ['*', '*'] <:+: rest :=
    ⟨List.not_mem_of_not_mem_cons whole,
      fun inside => stars (inside.trans (List.suffix_cons ..).isInfix)⟩
  fun_induction read cs with
  | case1 => simp
  | case2 rest => exact absurd ⟨[], '/' :: rest, rfl⟩ stars
  | case3 rest => exact absurd ⟨[], rest, rfl⟩ stars
  | case4 rest _ _ ih =>
    obtain ⟨whole', stars'⟩ := tail whole stars
    exact List.forall_mem_cons.mpr ⟨by decide, ih whole' stars'⟩
  | case5 rest ih =>
    obtain ⟨whole', stars'⟩ := tail whole stars
    exact List.forall_mem_cons.mpr ⟨by decide, ih whole' stars'⟩
  | case6 c rest _ _ _ _ ih =>
    obtain ⟨whole', stars'⟩ := tail whole stars
    have other : (CharSet.only c).has '/' = false := by
      rw [← Bool.not_eq_true, CharSet.only_has]
      rintro rfl
      exact whole List.mem_cons_self
    exact List.forall_mem_cons.mpr ⟨other, ih whole' stars'⟩

theorem read?_whole {p : Bytes} (whole : byte '/' ∉ p) :
    Line.read? p = if (Bytes.dropLead p [byte '!']).isEmpty then none
      else (compile? (Bytes.dropLead p [byte '!'])).map fun ps =>
        ⟨p.head? == some (byte '!'), false, false, ps⟩ := by
  have whole' : byte '/' ∉ Bytes.dropLead p [byte '!'] := fun slash =>
    whole (Bytes.mem_of_mem_dropLead slash)
  have last : (Bytes.dropLead p [byte '!']).getLast? ≠ some (byte '/') := fun last =>
    whole' (List.mem_of_getLast? last)
  have same : body p = Bytes.dropLead p [byte '!'] := by
    rw [body, Bytes.dropTrail_last, if_neg (by simpa using last)]
  have front : (Bytes.dropLead p [byte '!']).head? ≠ some (byte '/') := fun first =>
    whole' (List.mem_of_head? first)
  have bare : Bytes.dropLead (Bytes.dropLead p [byte '!']) [byte '/'] =
      Bytes.dropLead p [byte '!'] := by
    rw [Bytes.dropLead_single, if_neg (by simpa using front)]
  rw [read?_eq, same, bare, Bytes.has_eq_false.mpr whole', beq_false_of_ne last]

theorem ignores_single (l : Line) (path : Bytes) (folder : Bool) :
    ignores ⟨[l]⟩ path folder =
      (!l.negated && l.applies (Text.chars (Bytes.dropLead path (Bytes.of "./"))) folder) := by
  have alone := ignores_concat [] l path folder
  rw [List.nil_append] at alone
  rw [alone]
  cases l.applies (Text.chars (Bytes.dropLead path (Bytes.of "./"))) folder <;>
    simp [ignores]

/-- A line without slashes and double stars that is kept as one pattern. -/
structure Slashless (line : Bytes) (l : Line) : Prop where
  kept : parse line = .ok ⟨[l]⟩
  oneLine : Text.feed ∉ line
  whole : byte '/' ∉ line
  stars : ¬ Bytes.of "**" <:+: line

theorem patternOf_within (line : Bytes) : patternOf line <:+: line := by
  refine (Text.trim_within _).trans ?_
  rcases Bytes.dropTrail_single line (byte '\r') with ⟨t, split, cut⟩ | same
  · rw [cut, split]
    exact (List.prefix_append ..).isInfix
  · rw [same]

section Slashless

variable {line : Bytes} {l : Line}

theorem Slashless.compiled (h : Slashless line l) :
    compile? (Bytes.dropLead (patternOf line) [byte '!']) = some l.pieces ∧ l.Loose := by
  have kept := h.kept
  rw [parse_line h.oneLine] at kept
  split at kept
  · cases kept
  rw [Except.ok.injEq, Ignore.mk.injEq] at kept
  have member := kept ▸ List.mem_singleton_self l
  obtain ⟨p, filtered, read⟩ := List.mem_filterMap.mp member
  obtain rfl := List.mem_singleton.mp (List.mem_of_mem_filter filtered)
  rw [read?_whole fun slash => h.whole ((patternOf_within line).subset slash)] at read
  split at read
  · cases read
  obtain ⟨ps, compiled, rfl⟩ := Option.map_eq_some_iff.mp read
  exact ⟨compiled, rfl, rfl⟩

theorem Slashless.refuses (h : Slashless line l) (unbracketed : byte '[' ∉ line) :
    ∀ p ∈ l.pieces, p.takesSlash = false := by
  have inside : Bytes.dropLead (patternOf line) [byte '!'] <:+: line :=
    (Bytes.dropLead_suffix ..).isInfix.trans (patternOf_within line)
  have compiled := h.compiled.1
  rw [Token.compile?_eq fun bracket => unbracketed (inside.subset bracket), Option.some.injEq]
    at compiled
  have whole : '/' ∉ (Bytes.dropLead (patternOf line) [byte '!']).map Text.charOf := by
    intro slash
    obtain ⟨b, member, same⟩ := List.mem_map.mp slash
    have slash : b = byte '/' := Text.charOf_inj.mp same
    exact h.whole (inside.subset (slash ▸ member))
  have stars : ¬ ['*', '*'] <:+: (Bytes.dropLead (patternOf line) [byte '!']).map Text.charOf := by
    intro twice
    obtain ⟨bs, within, same⟩ := List.infix_map_iff.mp twice
    have two : bs = Bytes.of "**" :=
      List.map_injective_iff.mpr (fun _ _ => Text.charOf_inj.mp) (same.symm.trans (by decide))
    exact h.stars (two ▸ within.trans inside)
  rw [← compiled, List.forall_mem_map]
  exact Token.read_refuses whole stars

end Slashless

theorem dropLead_component {c : Bytes} (whole : Path.slash ∉ c) :
    Bytes.dropLead c (Bytes.of "./") = c := by
  refine if_neg fun lead => whole ?_
  have inside := (List.isPrefixOf_iff_prefix.mp lead).subset
  exact inside (by decide : Path.slash ∈ Bytes.of "./")

/-- A line without slashes that is not negated ignores the paths in which its pattern spells a
stretch of whole components. If no piece of it reads a slash, as is the case if it has no
bracket expression, it ignores a path exactly when it ignores one of its components. -/
theorem slashless_line_components {line : Bytes} {l : Line} (h : Slashless line l) :
    (byte '[' ∉ line → ∀ p ∈ l.pieces, p.takesSlash = false) ∧
    ∀ (path : Bytes) (folder : Bool), Text.feed ∉ path →
      Bytes.startsWith path (Bytes.of "./") = false →
      (ignores ⟨[l]⟩ path folder = true ↔ l.negated = false ∧
        ∃ q, Path.parts q <:+: Path.parts path ∧ Spelled l.pieces (Text.chars q)) ∧
      ((∀ p ∈ l.pieces, p.takesSlash = false) →
        (ignores ⟨[l]⟩ path folder = true ↔
          ∃ c ∈ Path.parts path, ignores ⟨[l]⟩ c folder = true)) := by
  have loose := h.compiled.2
  refine ⟨h.refuses, fun path folder oneLine bare => ?_⟩
  have same : Bytes.dropLead path (Bytes.of "./") = path := if_neg (ne_true_of_eq_false bare)
  rw [ignores_single, same, Bool.and_eq_true, Bool.not_eq_true']
  refine ⟨and_congr_right fun _ => loose.applies_stretch oneLine folder, fun refuse => ?_⟩
  have component : ∀ c ∈ Path.parts path, (ignores ⟨[l]⟩ c folder = true ↔
      l.negated = false ∧ Spelled l.pieces (Text.chars c)) := by
    intro c member
    have piece := Path.parts_whole member
    have oneLine' : Text.feed ∉ c := fun feed => oneLine (Path.parts_subset member feed)
    rw [ignores_single, dropLead_component piece, Bool.and_eq_true, Bool.not_eq_true',
      loose.applies_component refuse oneLine', Path.parts_of_whole piece]
    simp
  rw [loose.applies_component refuse oneLine, ← exists_and_left]
  refine exists_congr fun c => ?_
  rw [and_left_comm]
  exact and_congr_right fun member => (component c member).symm

def bracketLine : Bytes := Bytes.of "*.[cm]js"

def bracketPattern : Line :=
  ⟨false, false, false, [.run (.except '/'), .one (.only '.'),
    .one ⟨false, [('c'.toNat, 'c'.toNat), ('m'.toNat, 'm'.toNat)]⟩, .one (.only 'j'),
    .one (.only 's')]⟩

theorem bracketLine_slashless : Slashless bracketLine bracketPattern := by
  have same : patternOf bracketLine = bracketLine := by decide +kernel
  have oneLine : Text.feed ∉ bracketLine := by decide
  refine ⟨?_, oneLine, by decide, by decide⟩
  exact parse_eq_ok oneLine (by decide) same (by decide) (by decide) (by decide +kernel)

theorem bracketLine_components :
    Slashless bracketLine bracketPattern ∧ (∀ p ∈ bracketPattern.pieces, p.takesSlash = false) ∧
    (ignores ⟨[bracketPattern]⟩ (Bytes.of "a/tool.mjs") false = true ↔
      ∃ c ∈ Path.parts (Bytes.of "a/tool.mjs"), ignores ⟨[bracketPattern]⟩ c false = true) := by
  have refuse : ∀ p ∈ bracketPattern.pieces, p.takesSlash = false := by decide
  exact ⟨bracketLine_slashless, refuse,
    ((slashless_line_components bracketLine_slashless).2 _ false (by decide) (by decide)).2 refuse⟩

def complementLine : Bytes := Bytes.of "a[!x]b.js"

def complementPattern : Line :=
  ⟨false, false, false, [.one (.only 'a'), .one (.except 'x'), .one (.only 'b'), .one (.only '.'),
    .one (.only 'j'), .one (.only 's')]⟩

/-- A complement reads a slash, so this line ignores a path of which it ignores neither
component. -/
theorem complement_crosses_components :
    Slashless complementLine complementPattern ∧ complementPattern.negated = false ∧
    ignores ⟨[complementPattern]⟩ (Bytes.of "a/b.js") false = true ∧
    ∀ c ∈ Path.parts (Bytes.of "a/b.js"), ignores ⟨[complementPattern]⟩ c false = false := by
  have same : patternOf complementLine = complementLine := by decide +kernel
  have oneLine : Text.feed ∉ complementLine := by decide
  refine ⟨⟨?_, oneLine, by decide, by decide⟩, by decide, by decide +kernel, ?_⟩
  · exact parse_eq_ok oneLine (by decide) same (by decide) (by decide) (by decide +kernel)
  have parts : Path.parts (Bytes.of "a/b.js") = [Bytes.of "a", Bytes.of "b.js"] := by decide
  rw [parts, List.forall_mem_cons, List.forall_mem_singleton]
  exact ⟨by decide +kernel, by decide +kernel⟩

end Ignore

end SpanGauge
