import SpanGauge.Signature
import SpanGauge.Proofs.Signature.Pattern

/-! Where words end. White space and the bytes of names are apart, so a name between
keywords, white space and punctuation can be cut out in one way only: it is the last word
before the first byte that is neither. -/
namespace SpanGauge.Signature

def Stops (test : UInt8 → Bool) (s : Bytes) : Prop := ∀ b, s.head? = some b → test b = false

section Runs

variable {test : UInt8 → Bool} {u v u' v' : Bytes}

theorem takeWhile_run (passes : ∀ b ∈ u, test b = true) (stops : Stops test v) :
    (u ++ v).takeWhile test = u := by
  have none : v.takeWhile test = [] := by
    cases v with
    | nil => rfl
    | cons b v => simp [stops b rfl]
  rw [List.takeWhile_append_of_pos passes, none, List.append_nil]

theorem dropWhile_run (passes : ∀ b ∈ u, test b = true) (stops : Stops test v) :
    (u ++ v).dropWhile test = v := by
  have all : v.dropWhile test = v := by
    cases v with
    | nil => rfl
    | cons b v => simp [stops b rfl]
  rw [List.dropWhile_append_of_pos passes, all]

theorem run_unique (same : u ++ v = u' ++ v') (passes : ∀ b ∈ u, test b = true)
    (stops : Stops test v) (passes' : ∀ b ∈ u', test b = true) (stops' : Stops test v') :
    u = u' ∧ v = v' := by
  constructor
  · rw [← takeWhile_run passes stops, same, takeWhile_run passes' stops']
  · rw [← dropWhile_run passes stops, same, dropWhile_run passes' stops']

theorem Stops.cons {b : UInt8} (fails : test b = false) (s : Bytes) : Stops test (b :: s) := by
  intro c head
  cases Option.some.inj head
  exact fails

theorem Stops.append (first : Stops test u) (second : Stops test v) : Stops test (u ++ v) := by
  cases u with
  | nil => exact second
  | cons b u => exact first

theorem Stops.append_right (some : u ≠ []) (first : Stops test u) (v : Bytes) :
    Stops test (u ++ v) := by
  cases u with
  | nil => exact absurd rfl some
  | cons b u => exact first

end Runs

theorem namePart_of_gap {b : UInt8} (gap : isGap b = true) : isNamePart b = false := by
  simp only [isGap, Bool.or_eq_true, beq_iff_eq] at gap
  rcases gap with (((rfl | rfl) | rfl) | rfl) | rfl <;> decide

theorem gap_of_namePart {b : UInt8} (part : isNamePart b = true) : isGap b = false := by
  cases gap : isGap b with
  | false => rfl
  | true => rw [namePart_of_gap gap] at part; cases part

theorem namePart_of_nameStart {b : UInt8} (start : isNameStart b = true) :
    isNamePart b = true := by
  simp [isNamePart, start]

theorem IsName.parts {nm : Bytes} (name : IsName nm) : ∀ b ∈ nm, isNamePart b = true := by
  cases nm with
  | nil => simp
  | cons b rest =>
    intro c member
    rcases List.mem_cons.mp member with rfl | member
    · exact namePart_of_nameStart name.1
    · exact name.2 c member

theorem IsName.ne_nil {nm : Bytes} (name : IsName nm) : nm ≠ [] := by
  rintro rfl
  exact name

theorem IsName.stops {nm : Bytes} (name : IsName nm) {test : UInt8 → Bool}
    (apart : ∀ b, isNameStart b = true → test b = false) (rest : Bytes) :
    Stops test (nm ++ rest) := by
  cases nm with
  | nil => exact absurd rfl name.ne_nil
  | cons b nm => exact .cons (apart b name.1) _

structure Spaced (u : Bytes) : Prop where
  bytes : ∀ b ∈ u, (isGap b || isNamePart b) = true
  ends : Stops isNamePart u.reverse

namespace Spaced

theorem ofGaps {g : Bytes} (gaps : ∀ b ∈ g, isGap b = true) : Spaced g where
  bytes b member := by simp [gaps b member]
  ends b last := namePart_of_gap (gaps b (List.mem_reverse.mp (List.mem_of_head? last)))

theorem append {u v : Bytes} (hu : Spaced u) (hv : Spaced v) : Spaced (u ++ v) where
  bytes b member := (List.mem_append.mp member).elim (hu.bytes b) (hv.bytes b)
  ends := by
    rw [List.reverse_append]
    exact hv.ends.append hu.ends

theorem ofWord {w g : Bytes} (word : ∀ b ∈ w, isNamePart b = true) (some : g ≠ [])
    (gaps : ∀ b ∈ g, isGap b = true) : Spaced (w ++ g) where
  bytes b member := by
    rcases List.mem_append.mp member with member | member
    · simp [word b member]
    · simp [gaps b member]
  ends := by
    rw [List.reverse_append]
    exact (ofGaps gaps).ends.append_right (by simpa using some) _

end Spaced

def Punctuated (v : Bytes) : Prop :=
  ∃ g c t, v = g ++ c :: t ∧ (∀ b ∈ g, isGap b = true) ∧ (isGap c || isNamePart c) = false

theorem Punctuated.append {v : Bytes} (h : Punctuated v) (rest : Bytes) :
    Punctuated (v ++ rest) := by
  obtain ⟨g, c, t, rfl, gaps, none⟩ := h
  exact ⟨g, c, t ++ rest, by simp, gaps, none⟩

theorem Punctuated.stops {v : Bytes} (h : Punctuated v) (rest : Bytes) :
    Stops isNamePart (v ++ rest) := by
  obtain ⟨g, c, t, rfl, gaps, none⟩ := h
  cases g with
  | nil => exact .cons (Bool.or_eq_false_iff.mp none).2 _
  | cons d g => exact .cons (namePart_of_gap (gaps d List.mem_cons_self)) _

theorem IsName.append {nm w : Bytes} (name : IsName nm) (parts : ∀ b ∈ w, isNamePart b = true) :
    IsName (nm ++ w) := by
  cases nm with
  | nil => exact absurd rfl name.ne_nil
  | cons b rest =>
    refine ⟨name.1, ?_⟩
    intro c member
    exact (List.mem_append.mp member).elim (name.2 c) (parts c)

theorem words_upTo {u nm g : Bytes} (hu : Spaced u) (name : IsName nm)
    (gaps : ∀ b ∈ g, isGap b = true) : ∀ b ∈ u ++ nm ++ g, (isGap b || isNamePart b) = true := by
  intro b member
  rcases List.mem_append.mp member with member | member
  · rcases List.mem_append.mp member with member | member
    · exact hu.bytes b member
    · simp [name.parts b member]
  · simp [gaps b member]

/-- Behind spaced words, a name and white space, the first byte that is in no word is the
same however the line is cut. -/
theorem mark_unique {u nm g w u' nm' g' w' : Bytes} {c c' : UInt8}
    (same : u ++ nm ++ (g ++ c :: w) = u' ++ nm' ++ (g' ++ c' :: w'))
    (hu : Spaced u) (name : IsName nm) (gaps : ∀ b ∈ g, isGap b = true)
    (mark : (isGap c || isNamePart c) = false)
    (hu' : Spaced u') (name' : IsName nm') (gaps' : ∀ b ∈ g', isGap b = true)
    (mark' : (isGap c' || isNamePart c') = false) : u ++ nm ++ g = u' ++ nm' ++ g' ∧ c = c' := by
  rw [← List.append_assoc, ← List.append_assoc (u' ++ nm')] at same
  obtain ⟨front, rest⟩ := run_unique same (words_upTo hu name gaps) (.cons mark w)
    (words_upTo hu' name' gaps') (.cons mark' w')
  exact ⟨front, (List.cons.inj rest).1⟩

/-- A name after spaced words and before punctuation is the last word there, so the line can
be cut in one way only. -/
theorem cut_unique {u nm v u' nm' v' : Bytes} (same : u ++ nm ++ v = u' ++ nm' ++ v')
    (hu : Spaced u) (name : IsName nm) (hv : Punctuated v)
    (hu' : Spaced u') (name' : IsName nm') (hv' : Punctuated v') : u = u' ∧ nm = nm' := by
  obtain ⟨g, c, t, rfl, gaps, none⟩ := hv
  obtain ⟨g', c', t', rfl, gaps', none'⟩ := hv'
  have front := (mark_unique same hu name gaps none hu' name' gaps' none').1
  -- from the right: white space, the name, and then white space or nothing
  have mirrored := congrArg List.reverse front
  simp only [List.reverse_append, List.append_assoc] at mirrored
  have turned : ∀ {nm : Bytes} (u : Bytes), IsName nm → Stops isGap (nm.reverse ++ u) := by
    intro nm u name
    refine Stops.append_right (by simpa using name.ne_nil) ?_ u
    intro b head
    exact gap_of_namePart (name.parts b (List.mem_reverse.mp (List.mem_of_head? head)))
  have back := (run_unique mirrored (by simpa using gaps) (turned _ name)
    (by simpa using gaps') (turned _ name')).2
  obtain ⟨names, leads⟩ := run_unique back (by simpa using name.parts) hu.ends
    (by simpa using name'.parts) hu'.ends
  exact ⟨List.reverse_inj.mp leads, List.reverse_inj.mp names⟩

end SpanGauge.Signature
