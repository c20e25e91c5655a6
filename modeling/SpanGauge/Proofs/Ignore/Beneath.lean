import SpanGauge.Proofs.Ignore.Component

/-! What lies below an ignored folder. The lines of a list without negations cover with a
folder everything below it. A file below the folder is still kept when each line that covers
it is for folders and also names the file itself, as one more component of the same name. -/
namespace SpanGauge.Ignore

/-- The pattern of a line ends at the end of the path, or before something below it. -/
def Line.Covers (l : Line) (path : List Char) : Prop :=
  ∃ before part after, path = before ++ part ++ after ∧ l.Begins before ∧
    Spelled l.pieces part ∧ Ends after

def Line.Names (l : Line) (path : List Char) : Prop :=
  ∃ before part, path = before ++ part ∧ l.Begins before ∧ Spelled l.pieces part

theorem Line.applies_iff_covers (l : Line) (path : List Char) (folder : Bool) :
    l.applies path folder = true ↔
      l.Covers path ∧ ¬ (l.foldersOnly = true ∧ folder = false ∧ l.Names path) :=
  l.applies_iff path folder

theorem Ends.below {after rest : List Char} (ends : Ends after) (oneLine : '\n' ∉ rest) :
    Ends (after ++ '/' :: rest) := by
  intro c tail split
  cases after with
  | nil =>
    cases split
    exact ⟨rfl, oneLine⟩
  | cons d more =>
    obtain ⟨slash, clear⟩ := ends d more rfl
    cases split
    refine ⟨slash, ?_⟩
    simpa using ⟨clear, oneLine⟩

theorem Line.Covers.below {l : Line} {d x : Bytes} (covers : l.Covers (Text.chars d))
    (oneLine : Text.feed ∉ x) : l.Covers (Text.chars (d ++ Path.slash :: x)) := by
  obtain ⟨before, part, after, split, starts, spelled, ends⟩ := covers
  refine ⟨before, part, after ++ '/' :: Text.chars x, ?_, starts, spelled, ends.below ?_⟩
  · rw [Text.chars_slash, split, List.append_assoc]
  · exact fun feed => oneLine (Text.feed_of_mem_chars feed)

section Positive

variable {g : Ignore} (positive : ∀ l ∈ g.lines, l.negated = false)
include positive

theorem ignores_iff (path : Bytes) (folder : Bool) :
    g.ignores path folder = true ↔ ∃ l ∈ g.lines,
      l.applies (Text.chars (Bytes.dropLead path (Bytes.of "./"))) folder = true := by
  obtain ⟨lines⟩ := g
  induction lines using List.reverseRecOn with
  | nil => simp [ignores]
  | append_singleton lines l ih =>
    have last : l.negated = false := positive l (by simp)
    rw [ignores_concat, last]
    have earlier := ih fun m member => positive m (by simp [member])
    split
    · rename_i applies
      exact ⟨fun _ => ⟨l, by simp, applies⟩, fun _ => rfl⟩
    · rename_i other
      rw [earlier]
      simp [or_and_right, exists_or, other]

end Positive

theorem dropLead_below {d : Bytes} (other : d ≠ Path.dot)
    (bare : Bytes.startsWith d (Bytes.of "./") = false) (x : Bytes) :
    Bytes.dropLead (d ++ Path.slash :: x) (Bytes.of "./") = d ++ Path.slash :: x := by
  have lead : Bytes.of "./" = [byte '.', Path.slash] := by decide
  refine if_neg fun front => ?_
  rw [List.isPrefixOf_iff_prefix, lead] at front
  rcases d with _ | ⟨a, _ | ⟨b, d⟩⟩
  · exact absurd (List.cons_prefix_cons.mp front).1 (by decide)
  · obtain ⟨rfl, -⟩ := List.cons_prefix_cons.mp front
    exact other (by decide)
  · obtain ⟨rfl, rest⟩ := List.cons_prefix_cons.mp front
    obtain ⟨rfl, -⟩ := List.cons_prefix_cons.mp rest
    rw [lead] at bare
    simp [Bytes.startsWith] at bare

/-- If a list without negations ignores a folder, each line that applies to the folder covers
what lies below it. The list ignores all of it, except for a file that each covering line, being
one for folders, names itself. -/
theorem ignored_folder_covers {g : Ignore} (positive : ∀ l ∈ g.lines, l.negated = false)
    {d x : Bytes} (other : d ≠ Path.dot) (bare : Bytes.startsWith d (Bytes.of "./") = false)
    (oneLine : Text.feed ∉ x) (ignored : g.ignores d true = true) (folder : Bool) :
    (∀ l ∈ g.lines, l.applies (Text.chars d) true = true →
      l.Covers (Text.chars (d ++ Path.slash :: x))) ∧
    (g.ignores (d ++ Path.slash :: x) folder = false ↔
      folder = false ∧ ∀ l ∈ g.lines, l.Covers (Text.chars (d ++ Path.slash :: x)) →
        l.foldersOnly = true ∧ l.Names (Text.chars (d ++ Path.slash :: x))) := by
  have covers : ∀ l ∈ g.lines, l.applies (Text.chars d) true = true →
      l.Covers (Text.chars (d ++ Path.slash :: x)) := fun l _ applies =>
    ((l.applies_iff_covers _ true).mp applies).1.below oneLine
  refine ⟨covers, ?_⟩
  have same : Bytes.dropLead d (Bytes.of "./") = d := if_neg (ne_true_of_eq_false bare)
  rw [ignores_iff positive, same] at ignored
  obtain ⟨m, member, applies⟩ := ignored
  rw [← Bool.not_eq_true, ignores_iff positive, dropLead_below other bare]
  constructor
  · intro kept
    -- the line that ignores the folder could only be stopped at a file
    have file : folder = false := by
      by_contra dir
      refine kept ⟨m, member, (m.applies_iff_covers _ folder).mpr ⟨covers m member applies, ?_⟩⟩
      exact fun none => dir none.2.1
    refine ⟨file, fun l at_l covered => ?_⟩
    by_contra free
    refine kept ⟨l, at_l, (l.applies_iff_covers _ folder).mpr ⟨covered, ?_⟩⟩
    exact fun named => free ⟨named.1, named.2.2⟩
  · rintro ⟨file, named⟩ ⟨l, at_l, applies⟩
    obtain ⟨covered, free⟩ := (l.applies_iff_covers _ folder).mp applies
    obtain ⟨only, names⟩ := named l at_l covered
    exact free ⟨only, file, names⟩

def buildList : Ignore :=
  ⟨[⟨false, true, false, [.one (.only 'b'), .one (.only 'u'), .one (.only 'i'), .one (.only 'l'),
    .one (.only 'd')]⟩]⟩

theorem buildList_parsed : parse (Bytes.of "build/") = .ok buildList :=
  parse_eq_ok (by decide) (by decide) (by decide +kernel) (by decide) (by decide) (by decide +kernel)

theorem buildList_covers :
    (∀ l ∈ buildList.lines, l.negated = false) ∧ buildList.ignores (Bytes.of "build") true = true ∧
    ∀ folder, (buildList.ignores (Bytes.of "build" ++ Path.slash :: Bytes.of "lib") folder = false ↔
      folder = false ∧ ∀ l ∈ buildList.lines,
        l.Covers (Text.chars (Bytes.of "build" ++ Path.slash :: Bytes.of "lib")) →
        l.foldersOnly = true ∧
          l.Names (Text.chars (Bytes.of "build" ++ Path.slash :: Bytes.of "lib"))) := by
  have positive : ∀ l ∈ buildList.lines, l.negated = false := by decide
  have ignored : buildList.ignores (Bytes.of "build") true = true := by decide +kernel
  refine ⟨positive, ignored, fun folder => ?_⟩
  exact (ignored_folder_covers positive (by decide) (by decide) (by decide) ignored folder).2

/-- The folder is ignored, and a file of the same name in it is not. -/
theorem namesake_is_kept :
    parse (Bytes.of "build/") = .ok buildList ∧ (∀ l ∈ buildList.lines, l.negated = false) ∧
    buildList.ignores (Bytes.of "build") true = true ∧
    buildList.ignores (Bytes.of "build" ++ Path.slash :: Bytes.of "build") false = false :=
  ⟨buildList_parsed, by decide, by decide +kernel, by decide +kernel⟩

end SpanGauge.Ignore
