import SpanGauge.Ignore
import SpanGauge.Proofs.Signature.Pattern

/-! The places of a path that a pattern leads to. A place stands behind some beginning of the
path; a piece marks it exactly when a word of the piece leads there from a marked place, and
so for a list of pieces. What a line applies to is then said by the words of its pieces
alone. -/
namespace SpanGauge

theorem Pattern.derives_concat_cons {α : Type} {p : Pattern α} {ps : List (Pattern α)}
    {w : List α} :
    (Pattern.concat (p :: ps)).Derives w ↔
      ∃ u v, w = u ++ v ∧ p.Derives u ∧ (Pattern.concat ps).Derives v := by
  cases ps with
  | nil => simp [Pattern.concat]
  | cons q ps => exact Pattern.derives_seq

section Split

variable {α : Type} {a : α} {u : List α} {P : List α → List α → Prop}

theorem exists_split_nil : (∃ t w, [] = t ++ w ∧ P t w) ↔ P [] [] := by
  constructor
  · rintro ⟨t, w, split, h⟩
    obtain ⟨rfl, rfl⟩ := List.append_eq_nil_iff.mp split.symm
    exact h
  · exact fun h => ⟨[], [], rfl, h⟩

theorem exists_split_cons :
    (∃ t w, a :: u = t ++ w ∧ P t w) ↔ P [] (a :: u) ∨ ∃ t w, u = t ++ w ∧ P (a :: t) w := by
  constructor
  · rintro ⟨t, w, split, h⟩
    rcases List.cons_eq_append_iff.mp split with ⟨rfl, rfl⟩ | ⟨t, rfl, rfl⟩
    · exact .inl h
    · exact .inr ⟨t, w, rfl, h⟩
  · rintro (h | ⟨t, w, rfl, h⟩)
    · exact ⟨[], a :: u, rfl, h⟩
    · exact ⟨a :: t, w, rfl, h⟩

end Split

namespace Ignore

theorem within_single (c d : Char) : Text.within [(c.toNat, c.toNat)] d.toNat = (d == c) := by
  have same : d = c ↔ c.toNat ≤ d.toNat ∧ d.toNat ≤ c.toNat := by
    rw [← Char.toNat_inj, Nat.le_antisymm_iff, and_comm]
  rw [Bool.eq_iff_iff, beq_iff_eq, same, Text.within, List.any_cons, List.any_nil, Bool.or_false,
    Bool.and_eq_true, decide_eq_true_eq, decide_eq_true_eq]

@[simp] theorem CharSet.only_has {c d : Char} : (CharSet.only c).has d = true ↔ d = c := by
  simp [CharSet.has, CharSet.only, within_single]

@[simp] theorem CharSet.except_has {c d : Char} : (CharSet.except c).has d = true ↔ d ≠ c := by
  simp [CharSet.has, CharSet.except, within_single]

def Marked (marks : List Bool) (u : List Char) : Prop := marks[u.length]? = some true

def Sized (path : List Char) (marks : List Bool) : Prop := marks.length = path.length + 1

namespace Piece

variable {s : CharSet} {path u v : List Char} {marks : List Bool}

theorem after_length (sized : Sized path marks) : (after s path marks).length = path.length := by
  induction path generalizing marks with
  | nil => simp [after]
  | cons c path ih =>
    cases marks with
    | nil => cases sized
    | cons m marks => simpa [after] using ih (Nat.succ.inj sized)

theorem spread_length (s : CharSet) (carry : Bool) (sized : Sized path marks) :
    (spread s carry path marks).length = path.length + 1 := by
  induction path generalizing carry marks with
  | nil =>
    cases marks with
    | nil => cases sized
    | cons m marks => rfl
  | cons c path ih =>
    cases marks with
    | nil => cases sized
    | cons m marks => simpa [spread] using ih _ (Nat.succ.inj sized)

theorem advance_sized (p : Piece) (sized : Sized path marks) :
    Sized path (p.advance path marks) := by
  cases p with
  | one s => simp [Sized, advance, after_length sized]
  | run s => exact spread_length s false sized
  | folders =>
    simp [Sized, advance, either, after_length (spread_length notFeed false sized),
      show marks.length = _ from sized]

theorem marked_after {c : Char} :
    (after s (u ++ c :: v) marks)[u.length]? = some true ↔ Marked marks u ∧ s.has c = true := by
  induction u generalizing marks with
  | nil => cases marks <;> simp [after, Marked]
  | cons a u ih =>
    cases marks with
    | nil => simp [after, Marked]
    | cons m marks => simpa [after, Marked] using ih

theorem marked_spread (carry : Bool) (bound : u.length < marks.length) :
    Marked (spread s carry (u ++ v) marks) u ↔
      (carry = true ∧ ∀ c ∈ u, s.has c = true) ∨
        ∃ t w, u = t ++ w ∧ Marked marks t ∧ ∀ c ∈ w, s.has c = true := by
  induction u generalizing carry marks with
  | nil =>
    cases marks with
    | nil => cases bound
    | cons m marks =>
      rw [exists_split_nil]
      cases v <;> simp [spread, Marked, or_comm]
  | cons a u ih =>
    cases marks with
    | nil => cases bound
    | cons m marks =>
      have step : Marked (spread s carry (a :: u ++ v) (m :: marks)) (a :: u) ↔
          Marked (spread s ((m || carry) && s.has a) (u ++ v) marks) u := by
        simp [Marked, spread]
      have front : Marked (m :: marks) [] ↔ m = true := by simp [Marked]
      have later : ∀ t, Marked (m :: marks) (a :: t) ↔ Marked marks t := by simp [Marked]
      rw [step, ih _ (Nat.lt_of_succ_lt_succ bound), exists_split_cons]
      simp only [front, later, List.forall_mem_cons, Bool.and_eq_true, Bool.or_eq_true]
      grind

theorem marked_either {one two : List Bool} (bound : u.length < one.length)
    (bound' : u.length < two.length) :
    Marked (either one two) u ↔ Marked one u ∨ Marked two u := by
  simp only [Marked, either, List.getElem?_zipWith, List.getElem?_eq_getElem bound,
    List.getElem?_eq_getElem bound', Option.some.injEq, Bool.or_eq_true]

theorem marked_one (split : path = u ++ v) :
    Marked (false :: after s path marks) u ↔
      ∃ t w, u = t ++ w ∧ Marked marks t ∧ (Pattern.one s.has).Derives w := by
  subst split
  rcases List.eq_nil_or_concat u with rfl | ⟨t, c, rfl⟩
  · rw [exists_split_nil]
    simp [Marked]
  · have place : Marked (false :: after s (t ++ [c] ++ v) marks) (t ++ [c]) ↔
        Marked marks t ∧ s.has c = true := by
      rw [← marked_after (v := v)]
      simp [Marked]
    rw [List.concat_eq_append, place]
    constructor
    · rintro ⟨marked, has⟩
      exact ⟨t, [c], rfl, marked, .one has⟩
    · rintro ⟨t', w, split, marked, derives⟩
      obtain ⟨a, has, rfl⟩ := Pattern.derives_one.mp derives
      obtain ⟨rfl, last⟩ := List.append_inj' split rfl
      cases last
      exact ⟨marked, has⟩

theorem marked_run (split : path = u ++ v) (sized : Sized path marks) :
    Marked (spread s false path marks) u ↔
      ∃ t w, u = t ++ w ∧ Marked marks t ∧ (Pattern.many s.has).Derives w := by
  subst split
  have bound : u.length < marks.length := by
    rw [sized, List.length_append]
    omega
  simpa using marked_spread false bound

/-- A place is marked behind a piece exactly when a word of the piece leads there from a
marked place. -/
theorem marked_advance (p : Piece) (split : path = u ++ v) (sized : Sized path marks) :
    Marked (p.advance path marks) u ↔
      ∃ t w, u = t ++ w ∧ Marked marks t ∧ p.pattern.Derives w := by
  cases p with
  | one s => exact marked_one split
  | run s => exact marked_run split sized
  | folders =>
    have bound : u.length < path.length + 1 := by
      rw [split, List.length_append]
      omega
    have slash : (CharSet.only '/').has = (· == '/') := by
      funext c
      rw [Bool.eq_iff_iff, CharSet.only_has, beq_iff_eq]
    have spreads := spread_length notFeed false sized
    rw [advance, marked_either (sized ▸ bound)
      (by simpa [after_length spreads] using bound), marked_one split, slash]
    constructor
    · rintro (marked | ⟨t, last, rfl, marked, ends⟩)
      · exact ⟨u, [], (List.append_nil u).symm, marked, .right .empty⟩
      · obtain ⟨t, w, rfl, start, run⟩ :=
          (marked_run (split.trans (List.append_assoc ..)) sized).mp marked
        exact ⟨t, w ++ last, List.append_assoc .., start, .left (.seq run ends)⟩
    · rintro ⟨t, w, rfl, start, derives⟩
      rcases Pattern.derives_alt.mp derives with read | none
      · obtain ⟨run, last, rfl, hr, ends⟩ := Pattern.derives_seq.mp read
        refine .inr ⟨t ++ run, last, (List.append_assoc ..).symm, ?_, ends⟩
        have behind : path = t ++ run ++ (last ++ v) := by rw [split]; simp
        exact (marked_run behind sized).mpr ⟨t, run, rfl, start, hr⟩
      · rw [Pattern.derives_empty.mp none, List.append_nil]
        exact .inl start

end Piece

def Spelled (ps : List Piece) (w : List Char) : Prop :=
  (Pattern.concat (ps.map Piece.pattern)).Derives w

theorem spelled_nil {w : List Char} : Spelled [] w ↔ w = [] := Pattern.derives_empty

theorem spelled_cons {p : Piece} {ps : List Piece} {w : List Char} :
    Spelled (p :: ps) w ↔ ∃ u v, w = u ++ v ∧ p.pattern.Derives u ∧ Spelled ps v :=
  Pattern.derives_concat_cons

section Places

variable {path u v : List Char} {marks : List Bool}

theorem advanceAll_sized (ps : List Piece) (sized : Sized path marks) :
    Sized path (advanceAll path marks ps) := by
  induction ps generalizing marks with
  | nil => exact sized
  | cons p ps ih => exact ih (p.advance_sized sized)

theorem marked_advanceAll (ps : List Piece) (split : path = u ++ v) (sized : Sized path marks) :
    Marked (advanceAll path marks ps) u ↔ ∃ t w, u = t ++ w ∧ Marked marks t ∧ Spelled ps w := by
  induction ps generalizing marks with
  | nil =>
    simp only [spelled_nil]
    constructor
    · exact fun marked => ⟨u, [], (List.append_nil u).symm, marked, rfl⟩
    · rintro ⟨t, _, rfl, marked, rfl⟩
      rwa [List.append_nil]
  | cons p ps ih =>
    rw [show advanceAll path marks (p :: ps) = advanceAll path (p.advance path marks) ps from rfl,
      ih (p.advance_sized sized)]
    constructor
    · rintro ⟨t, last, rfl, marked, rest⟩
      obtain ⟨t, w, rfl, start, first⟩ :=
        (p.marked_advance (split.trans (List.append_assoc ..)) sized).mp marked
      exact ⟨t, w ++ last, List.append_assoc .., start,
        spelled_cons.mpr ⟨w, last, rfl, first, rest⟩⟩
    · rintro ⟨t, _, rfl, start, derives⟩
      obtain ⟨w, last, rfl, first, rest⟩ := spelled_cons.mp derives
      refine ⟨t ++ w, last, (List.append_assoc ..).symm, ?_, rest⟩
      have behind : path = t ++ w ++ (last ++ v) := by rw [split]; simp
      exact (p.marked_advance behind sized).mpr ⟨t, w, rfl, start, first⟩

theorem startMarks_sized (anchored : Bool) (path : List Char) :
    Sized path (startMarks anchored path) := by
  simp [Sized, startMarks]

theorem marked_startMarks {anchored : Bool} (split : path = u ++ v) :
    Marked (startMarks anchored path) u ↔
      u = [] ∨ anchored = false ∧ ∃ t, u = t ++ ['/'] := by
  subst split
  rcases List.eq_nil_or_concat u with rfl | ⟨t, c, rfl⟩
  · simp [Marked, startMarks]
  · simp [Marked, startMarks]

theorem endsMarked_iff (sized : Sized path marks) :
    endsMarked marks = true ↔ Marked marks path := by
  have last : marks.getLast? = marks[path.length]? := by
    rw [List.getLast?_eq_getElem?, sized, Nat.add_sub_cancel]
  rw [endsMarked, last, Marked]
  cases marks[path.length]? <;> simp

/-- What may stand behind the word of a pattern: nothing, or a slash and a rest of one line. -/
def Ends (after : List Char) : Prop := ∀ c rest, after = c :: rest → c = '/' ∧ '\n' ∉ rest

theorem reachesBelow_iff (sized : Sized path marks) :
    reachesBelow path marks = true ↔
      ∃ u v, path = u ++ v ∧ Marked marks u ∧ Ends v := by
  induction path generalizing marks with
  | nil =>
    cases marks with
    | nil => cases sized
    | cons m marks =>
      rw [exists_split_nil]
      simp [reachesBelow, Marked, Ends]
  | cons c path ih =>
    cases marks with
    | nil => cases sized
    | cons m marks =>
      have here : Marked (m :: marks) [] ↔ m = true := by simp [Marked]
      have later : ∀ u, Marked (m :: marks) (c :: u) ↔ Marked marks u := by simp [Marked]
      have slash : Ends (c :: path) ↔ c = '/' ∧ '\n' ∉ path := by simp [Ends]
      have feed : (!path.any (· == '\n')) = true ↔ '\n' ∉ path := by
        rw [List.any_beq', Bool.not_eq_true', List.contains_eq_mem, decide_eq_false_iff_not]
      rw [exists_split_cons, here, slash]
      simp only [later]
      rw [← ih (Nat.succ.inj sized), reachesBelow, Bool.or_eq_true, Bool.and_eq_true,
        Bool.and_eq_true, feed, beq_iff_eq, and_assoc]

end Places

def Line.Begins (l : Line) (before : List Char) : Prop :=
  before = [] ∨ l.anchored = false ∧ ∃ t, before = t ++ ['/']

theorem Line.marked_iff (l : Line) {path u v : List Char} (split : path = u ++ v) :
    Marked (l.marks path) u ↔
      ∃ before part, u = before ++ part ∧ l.Begins before ∧ Spelled l.pieces part := by
  rw [Line.marks, marked_advanceAll l.pieces split (startMarks_sized l.anchored path)]
  have starts : ∀ before part, u = before ++ part →
      (Marked (startMarks l.anchored path) before ↔ l.Begins before) := by
    intro before part parts
    exact marked_startMarks (split.trans (parts ▸ List.append_assoc ..))
  constructor
  · rintro ⟨before, part, parts, start, spelled⟩
    exact ⟨before, part, parts, (starts before part parts).mp start, spelled⟩
  · rintro ⟨before, part, parts, start, spelled⟩
    exact ⟨before, part, parts, (starts before part parts).mpr start, spelled⟩

/-- A line applies to a path exactly when a word of its pieces ends at the end of the path or
before a slash, except for a line for folders on something else that such a word ends. -/
theorem Line.applies_iff (l : Line) (path : List Char) (folder : Bool) :
    l.applies path folder = true ↔
      (∃ before part after, path = before ++ part ++ after ∧ l.Begins before ∧
        Spelled l.pieces part ∧ Ends after) ∧
      ¬ (l.foldersOnly = true ∧ folder = false ∧
        ∃ before part, path = before ++ part ∧ l.Begins before ∧ Spelled l.pieces part) := by
  have sized : Sized path (l.marks path) :=
    advanceAll_sized l.pieces (startMarks_sized l.anchored path)
  have below : reachesBelow path (l.marks path) = true ↔
      ∃ before part after, path = before ++ part ++ after ∧ l.Begins before ∧
        Spelled l.pieces part ∧ Ends after := by
    rw [reachesBelow_iff sized]
    constructor
    · rintro ⟨u, after, split, marked, ends⟩
      obtain ⟨before, part, rfl, start, spelled⟩ := (l.marked_iff split).mp marked
      exact ⟨before, part, after, split, start, spelled, ends⟩
    · rintro ⟨before, part, after, split, start, spelled, ends⟩
      exact ⟨before ++ part, after, split,
        (l.marked_iff split).mpr ⟨before, part, rfl, start, spelled⟩, ends⟩
  have whole := l.marked_iff (List.append_nil path).symm
  rw [Line.applies, Bool.and_eq_true, below, ← whole, ← endsMarked_iff sized]
  refine and_congr_right fun _ => ?_
  cases l.foldersOnly <;> cases folder <;> simp

end Ignore

end SpanGauge
