import SpanGauge.Proofs.Ignore.Component

/-! A name as an ignore pattern. Each byte of the pattern stands for the character of its
number, so the pattern ignores the components that are spelled by these characters. The name
is one of them exactly if all its bytes are below 128: beyond that a character of a path takes
several bytes. -/
namespace SpanGauge.Ignore

/-- The name of an entry that can stand on a line as a pattern: valid text without wildcards,
brackets and backslashes, with no white space at its ends, no negation and no comment. -/
structure PlainName (name : Bytes) : Prop where
  told : name ≠ []
  valid : Text.isValid name = true
  plain : ∀ b ∈ name, b ∉ Bytes.of "/*?[\\\n\r"
  front : ∀ c, (Text.chars name).head? = some c → Text.isBlank c = false
  back : ∀ c, (Text.chars name).getLast? = some c → Text.isBlank c = false
  positive : name.head? ≠ some (byte '!')
  comment : name.head? ≠ some (byte '#')
  short : name.length < 65536
  other : name ≠ Path.dot

theorem visible_of_eq {found : Option Char} {d : Char} (here : found = some d)
    (visible : Text.isBlank d = false) : ∀ c, found = some c → Text.isBlank c = false := by
  intro c same
  rwa [← Option.some.inj (here.symm.trans same)]

def nameLine (name : Bytes) : Line :=
  ⟨false, false, false, name.map fun b => .one (.only (Text.charOf b))⟩

theorem Token.read_exacts {cs : List Char} (star : '*' ∉ cs) (mark : '?' ∉ cs) :
    read cs = cs.map .exact := by
  induction cs with
  | nil => rfl
  | cons c cs ih =>
    rw [List.mem_cons, not_or] at star mark
    rw [read_exact (Ne.symm star.1) (Ne.symm mark.1), ih star.2 mark.2, List.map_cons]

theorem spelled_nameLine {name : Bytes} {w : List Char} :
    Spelled (nameLine name).pieces w ↔ w = name.map Text.charOf := by
  rw [nameLine]
  induction name generalizing w with
  | nil => exact spelled_nil
  | cons b name ih =>
    rw [List.map_cons, List.map_cons, spelled_cons]
    constructor
    · rintro ⟨u, v, rfl, first, rest⟩
      obtain ⟨c, has, rfl⟩ := Pattern.derives_one.mp first
      rw [CharSet.only_has.mp has, ih.mp rest, List.singleton_append]
    · rintro rfl
      exact ⟨[Text.charOf b], _, rfl, .one (CharSet.only_has.mpr rfl), ih.mpr rfl⟩

section Names

variable {name : Bytes}

theorem PlainName.avoids (h : PlainName name) {c : UInt8} (special : c ∈ Bytes.of "/*?[\\\n\r") :
    c ∉ name := fun member => h.plain c member special

theorem PlainName.avoids_char (h : PlainName name) {c : UInt8}
    (special : c ∈ Bytes.of "/*?[\\\n\r") : Text.charOf c ∉ name.map Text.charOf := by
  intro member
  obtain ⟨b, at_b, same⟩ := List.mem_map.mp member
  exact h.avoids special (Text.charOf_inj.mp same ▸ at_b)

theorem PlainName.patternOf_eq (h : PlainName name) : patternOf name = name := by
  have carriage : name.getLast? ≠ some (byte '\r') := fun last =>
    h.avoids (c := byte '\r') (by decide) (List.mem_of_getLast? last)
  rw [patternOf, Bytes.dropTrail_last, beq_false_of_ne carriage]
  exact Text.trim_of_ends h.front h.back

theorem PlainName.compile?_eq (h : PlainName name) :
    compile? name = some (nameLine name).pieces := by
  rw [Token.compile?_eq (h.avoids (by decide)),
    Token.read_exacts (h.avoids_char (c := byte '*') (by decide))
      (h.avoids_char (c := byte '?') (by decide)), List.map_map, List.map_map]
  rfl

theorem PlainName.slashless (h : PlainName name) : Slashless name (nameLine name) where
  kept := by
    refine parse_eq_ok (h.avoids (by decide)) h.short h.patternOf_eq h.told h.comment ?_
    have lead : Bytes.dropLead name [byte '!'] = name := by
      rw [Bytes.dropLead_single, if_neg (by simpa using h.positive)]
    rw [read?_whole (h.avoids (by decide)), lead, if_neg (by simpa using h.told), h.compile?_eq,
      beq_false_of_ne h.positive]
    rfl
  oneLine := h.avoids (by decide)
  whole := h.avoids (by decide)
  stars := fun twice => h.avoids (c := byte '*') (by decide) (twice.subset (by decide))

end Names

theorem exists_part_dropLead {P : Bytes → Prop} (dot : ¬ P Path.dot) (path : Bytes) :
    (∃ c ∈ Path.parts (Bytes.dropLead path (Bytes.of "./")), P c) ↔ ∃ c ∈ Path.parts path, P c := by
  by_cases lead : (Bytes.of "./").isPrefixOf path
  · obtain ⟨rest, rfl⟩ := List.isPrefixOf_iff_prefix.mp lead
    have here : Bytes.of "./" ++ rest = Path.dot ++ Path.slash :: rest := by
      rw [show Bytes.of "./" = Path.dot ++ [Path.slash] by decide, List.append_assoc]
      rfl
    have whole : Path.slash ∉ Path.dot := by decide
    rw [Bytes.dropLead, if_pos lead, List.drop_left, here, Path.parts_append,
      Path.parts_of_whole whole]
    simp [dot]
  · rw [Bytes.dropLead, if_neg lead]

theorem exists_part_around {P : Bytes → Prop} (blank : ¬ P []) {dir name below : Bytes}
    (whole : Path.slash ∉ name) (above : dir = [] ∨ dir.getLast? = some Path.slash)
    (beneath : below = [] ∨ below.head? = some Path.slash) :
    (∃ c ∈ Path.parts (dir ++ name ++ below), P c) ↔
      P name ∨ ∃ c ∈ Path.parts dir ++ Path.parts below, P c := by
  have none : Path.parts [] = [[]] := Path.parts_of_whole (by simp)
  have behind : (∃ c ∈ Path.parts (name ++ below), P c) ↔ P name ∨ ∃ c ∈ Path.parts below, P c := by
    rcases beneath with rfl | first
    · rw [List.append_nil, Path.parts_of_whole whole, none]
      simp [blank]
    · obtain ⟨x, rfl⟩ := List.head?_eq_some_iff.mp first
      rw [Path.parts_append, Path.parts_of_whole whole, Path.parts_rooted]
      simp [blank]
  rcases above with rfl | last
  · rw [List.nil_append, behind, none]
    simp [blank]
  · obtain ⟨t, rfl⟩ := List.getLast?_eq_some_iff.mp last
    have split : t ++ [Path.slash] ++ name ++ below = t ++ Path.slash :: (name ++ below) := by simp
    rw [split, Path.parts_append, Path.parts_append, none]
    simp only [List.mem_append, or_and_right, exists_or, behind, List.mem_singleton,
      exists_eq_left, blank, or_false]
    exact or_left_comm

/-- A name on a line of its own is one pattern. At the end of any folder's path or above
anything, the name is ignored exactly if its bytes are all below 128, or else if some other
component is spelled by the characters of these numbers. -/
theorem plain_name_ignores {name : Bytes} (h : PlainName name) :
    ∃ g, parse name = .ok g ∧ ∀ (dir below : Bytes) (folder : Bool),
      Text.feed ∉ dir → Text.feed ∉ below →
      (dir = [] ∨ dir.getLast? = some Path.slash) →
      (below = [] ∨ below.head? = some Path.slash) →
      (g.ignores (dir ++ name ++ below) folder = true ↔
        (∀ b ∈ name, b < 0x80) ∨
          ∃ c ∈ Path.parts dir ++ Path.parts below, Text.chars c = name.map Text.charOf) := by
  refine ⟨⟨[nameLine name]⟩, h.slashless.kept, ?_⟩
  intro dir below folder clear clear' above beneath
  have oneLine : Text.feed ∉ dir ++ name ++ below := by
    simp only [List.mem_append, not_or]
    exact ⟨⟨clear, h.slashless.oneLine⟩, clear'⟩
  have refuse := h.slashless.refuses (h.avoids (by decide))
  have blank : ¬ Text.chars [] = name.map Text.charOf := by
    rw [Text.chars, Text.runes_nil]
    simpa using Ne.symm h.told
  have dot : ¬ Text.chars Path.dot = name.map Text.charOf := by
    rw [Text.chars_ascii (by decide +kernel)]
    exact fun same => h.other
      (List.map_injective_iff.mpr (fun _ _ => Text.charOf_inj.mp) same).symm
  rw [ignores_single, show (nameLine name).negated = false from rfl, Bool.not_false, Bool.true_and,
    h.slashless.compiled.2.applies_component refuse fun feed =>
      oneLine (Bytes.mem_of_mem_dropLead feed)]
  simp only [spelled_nameLine]
  rw [exists_part_dropLead dot, exists_part_around blank h.slashless.whole above beneath,
    Text.chars_eq_map_iff h.valid]

def signedName : Bytes := Bytes.of "a+(b).\x7bc\x7d"

theorem signedName_plain : PlainName signedName := by
  have chars : Text.chars signedName = "a+(b).\x7bc\x7d".toList := by decide +kernel
  refine ⟨by decide, by decide +kernel, by decide +kernel, ?_, ?_, by decide, by decide, by decide, by decide⟩
  · exact visible_of_eq (d := 'a') (by rw [chars]; rfl) (by decide)
  · exact visible_of_eq (d := Char.ofNat 0x7D) (by rw [chars]; rfl) (by decide)

theorem signedName_ignores : PlainName signedName ∧
    ∃ g, parse signedName = .ok g ∧
      g.ignores (Bytes.of "./src/" ++ signedName ++ Bytes.of "/x.js") false = true := by
  obtain ⟨g, parsed, ignores⟩ := plain_name_ignores signedName_plain
  refine ⟨signedName_plain, g, parsed, ?_⟩
  refine (ignores _ _ false (by decide) (by decide) (.inr (by decide)) (.inr (by decide))).mpr ?_
  exact .inl (by decide +kernel)

def accentedName : Bytes := Bytes.of "é"

/-- A name of one character in two bytes does not ignore itself. -/
theorem accented_name_is_kept : PlainName accentedName ∧
    parse accentedName = .ok ⟨[nameLine accentedName]⟩ ∧
    ignores ⟨[nameLine accentedName]⟩ accentedName false = false := by
  have chars : Text.chars accentedName = ['é'] := by decide +kernel
  have plain : PlainName accentedName := by
    refine ⟨by decide, by decide +kernel, by decide +kernel, ?_, ?_, by decide, by decide, by decide,
      by decide⟩
    · exact visible_of_eq (d := 'é') (by rw [chars]; rfl) (by decide)
    · exact visible_of_eq (d := 'é') (by rw [chars]; rfl) (by decide)
  exact ⟨plain, plain.slashless.kept, by decide +kernel⟩

end SpanGauge.Ignore
