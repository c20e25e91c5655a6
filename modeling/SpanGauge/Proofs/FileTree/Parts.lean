import SpanGauge.Path
import SpanGauge.Proofs.Text.Lines

/-! The parts of a path. Empty parts and single dots say nothing; cleaning a path leaves
them out, resolves double dots in the text, and puts the rest together again. A name put
behind a path is the last part of the cleaned path. -/
namespace SpanGauge.Path

structure IsName (c : Bytes) : Prop where
  some : c ≠ []
  whole : slash ∉ c
  not_dot : c ≠ dot
  not_dotdot : c ≠ dotdot

instance (c : Bytes) : Decidable (IsName c) :=
  decidable_of_iff (c ≠ [] ∧ slash ∉ c ∧ c ≠ dot ∧ c ≠ dotdot)
    ⟨fun h => ⟨h.1, h.2.1, h.2.2.1, h.2.2.2⟩, fun h => ⟨h.some, h.whole, h.not_dot, h.not_dotdot⟩⟩

def tells (c : Bytes) : Bool := !(c.isEmpty || c == dot)

def parts (p : Bytes) : List Bytes := Bytes.splitAt slash p

def kept (p : Bytes) : List Bytes := ((parts p).foldl (keep (isRooted p)) []).reverse

theorem IsName.tells {c : Bytes} (name : IsName c) : tells c = true := by
  simp [Path.tells, name.some, name.not_dot]

section Joining

theorem join_singleton (c : Bytes) : Bytes.join [slash] [c] = c := by simp [Bytes.join]

theorem join_cons {c : Bytes} {cs : List Bytes} (more : cs ≠ []) :
    Bytes.join [slash] (c :: cs) = c ++ slash :: Bytes.join [slash] cs := by
  obtain ⟨d, ds, rfl⟩ := List.exists_cons_of_ne_nil more
  simp [Bytes.join]

theorem join_concat {cs : List Bytes} (some : cs ≠ []) (c : Bytes) :
    Bytes.join [slash] (cs ++ [c]) = Bytes.join [slash] cs ++ slash :: c := by
  induction cs with
  | nil => exact absurd rfl some
  | cons b cs ih =>
    cases cs with
    | nil => simp [Bytes.join]
    | cons d ds =>
      have rest := ih (by simp)
      rw [List.cons_append, join_cons (c := b) (by simp), rest, join_cons (c := b) (by simp)]
      simp

theorem parts_join {cs : List Bytes} (some : cs ≠ []) (whole : ∀ c ∈ cs, slash ∉ c) :
    parts (Bytes.join [slash] cs) = cs := by
  rw [parts, Bytes.splitAt_eq_splitOn]
  exact List.splitOn_intercalate _ whole some

theorem parts_ne_nil (p : Bytes) : parts p ≠ [] := by
  rw [parts, Bytes.splitAt_eq_splitOn]
  exact List.splitOn_ne_nil slash p

theorem join_parts (p : Bytes) : Bytes.join [slash] (parts p) = p := by
  rw [parts, Bytes.splitAt_eq_splitOn]
  exact List.intercalate_splitOn slash

theorem parts_whole {p c : Bytes} (member : c ∈ parts p) : slash ∉ c := by
  rw [parts, Bytes.splitAt_eq_splitOn] at member
  exact Bytes.not_mem_of_splitOn member

theorem parts_append (p c : Bytes) : parts (p ++ slash :: c) = parts p ++ parts c := by
  simp only [parts, Bytes.splitAt_eq_splitOn, List.splitOn_append_cons_self]

theorem parts_of_whole {c : Bytes} (whole : slash ∉ c) : parts c = [c] := by
  rw [parts, Bytes.splitAt_eq_splitOn, List.splitOn_eq_singleton whole]

theorem parts_rooted (p : Bytes) : parts (slash :: p) = [] :: parts p := by
  simp only [parts, Bytes.splitAt_eq_splitOn, List.splitOn_cons_eq_if_modifyHead, beq_self_eq_true,
    if_true]

end Joining

/-- Parts, the latest first, that cleaning leaves as they are: a double dot stands only
behind other double dots, and in no path from the top. -/
inductive Settled (rooted : Bool) : List Bytes → Prop
  | nil : Settled rooted []
  | name {c ks} (h : Settled rooted ks) (name : IsName c) : Settled rooted (c :: ks)
  | up {ks} (h : Settled rooted ks) (all : ∀ k ∈ ks, k = dotdot) (free : rooted = false) :
      Settled rooted (dotdot :: ks)

namespace Settled

variable {rooted : Bool} {ks : List Bytes}

theorem part (h : Settled rooted ks) : ∀ c ∈ ks, tells c = true ∧ slash ∉ c := by
  induction h with
  | nil => simp
  | name _ name ih =>
    intro d member
    rcases List.mem_cons.mp member with rfl | member
    · exact ⟨name.tells, name.whole⟩
    · exact ih d member
  | up _ _ _ ih =>
    intro d member
    rcases List.mem_cons.mp member with rfl | member
    · exact ⟨by decide +kernel, by decide +kernel⟩
    · exact ih d member

theorem keep (h : Settled rooted ks) {c : Bytes} (whole : slash ∉ c) :
    Settled rooted (keep rooted ks c) := by
  unfold Path.keep
  split
  · exact h
  · rename_i tells
    split
    · rename_i up
      cases beq_iff_eq.mp up
      cases h with
      | nil =>
        dsimp only
        split
        · exact .nil
        · exact .up .nil (by simp) (by simpa using ‹¬ rooted = true›)
      | name h name =>
        have other : (_ == dotdot) = false := beq_eq_false_iff_ne.mpr name.not_dotdot
        simpa only [other, Bool.false_eq_true, if_false] using h
      | up h all free =>
        simp only [beq_self_eq_true, if_true]
        exact .up (.up h all free) (by simpa using all) free
    · rename_i other
      simp only [Bool.or_eq_true, List.isEmpty_iff, beq_iff_eq, not_or] at tells other
      exact .name h ⟨tells.1, whole, tells.2, other⟩

theorem of_names (names : ∀ c ∈ ks, IsName c) : Settled rooted ks := by
  induction ks with
  | nil => exact .nil
  | cons c ks ih =>
    exact .name (ih fun d member => names d (by simp [member])) (names c (by simp))

theorem foldl_keep (h : Settled rooted ks) : ks.reverse.foldl (Path.keep rooted) [] = ks := by
  induction h with
  | nil => rfl
  | name _ name ih =>
    rw [List.reverse_cons, List.foldl_append, ih]
    have silent := name.tells
    have other : (_ == dotdot) = false := beq_eq_false_iff_ne.mpr name.not_dotdot
    simp only [Path.tells, Bool.not_eq_true'] at silent
    simp only [List.foldl_cons, List.foldl_nil, Path.keep, silent, other, Bool.false_eq_true,
      if_false]
  | @up ks _ all free ih =>
    have silent : (dotdot.isEmpty || dotdot == dot) = false := by decide +kernel
    rw [List.reverse_cons, List.foldl_append, ih]
    simp only [List.foldl_cons, List.foldl_nil, Path.keep, silent, beq_self_eq_true,
      Bool.false_eq_true, if_false, if_true, free]
    cases ks with
    | nil => rfl
    | cons k ks =>
      cases all k (by simp)
      simp

end Settled

theorem settled_foldl {rooted : Bool} {cs ks : List Bytes} (whole : ∀ c ∈ cs, slash ∉ c)
    (h : Settled rooted ks) : Settled rooted (cs.foldl (keep rooted) ks) := by
  induction cs generalizing ks with
  | nil => exact h
  | cons c cs ih =>
    exact ih (fun d member => whole d (by simp [member])) (h.keep (whole c (by simp)))

theorem settled_kept (p : Bytes) : Settled (isRooted p) (kept p).reverse := by
  rw [kept, List.reverse_reverse]
  exact settled_foldl (fun c member => parts_whole member) .nil

theorem kept_part {p c : Bytes} (member : c ∈ kept p) : tells c = true ∧ slash ∉ c :=
  (settled_kept p).part c (List.mem_reverse.mpr member)

def render (rooted : Bool) (ks : List Bytes) : Bytes :=
  if rooted then slash :: Bytes.join [slash] ks
  else if ks.isEmpty then dot else Bytes.join [slash] ks

theorem join_eq_nil {ks : List Bytes} (tell : ∀ c ∈ ks, tells c = true) :
    Bytes.join [slash] ks = [] ↔ ks = [] := by
  constructor
  · intro empty
    cases ks with
    | nil => rfl
    | cons c cs =>
      have some : c ≠ [] := by
        rintro rfl
        exact absurd (tell [] (by simp)) (by decide)
      cases cs with
      | nil => exact absurd (join_singleton c ▸ empty) some
      | cons d ds =>
        rw [join_cons (by simp)] at empty
        exact absurd (List.append_eq_nil_iff.mp empty).1 some
  · rintro rfl
    rfl

theorem clean_eq_render (p : Bytes) : clean p = render (isRooted p) (kept p) := by
  have empty : (Bytes.join [slash] (kept p)).isEmpty = (kept p).isEmpty := by
    rw [Bool.eq_iff_iff, List.isEmpty_iff, List.isEmpty_iff]
    exact join_eq_nil fun c member => (kept_part member).1
  show (if isRooted p then slash :: Bytes.join [slash] (kept p)
    else if (Bytes.join [slash] (kept p)).isEmpty then dot else Bytes.join [slash] (kept p)) = _
  rw [empty]
  rfl

section Render

variable {rooted : Bool} {ks : List Bytes}

theorem isRooted_render (tell : ∀ c ∈ ks, tells c = true ∧ slash ∉ c) :
    isRooted (render rooted ks) = rooted := by
  cases rooted with
  | true => simp [render, isRooted]
  | false =>
    cases ks with
    | nil => decide +kernel
    | cons c cs =>
      obtain ⟨told, whole⟩ := tell c (by simp)
      cases c with
      | nil => cases told
      | cons b c =>
        have other : b ≠ slash := fun same => whole (by simp [same])
        have head : (Bytes.join [slash] ((b :: c) :: cs)).head? = some b := by
          cases cs with
          | nil => rfl
          | cons d ds => rw [join_cons (by simp)]; rfl
        simp [render, isRooted, head, other]

theorem parts_render (tell : ∀ c ∈ ks, tells c = true ∧ slash ∉ c) :
    ∃ front, (∀ c ∈ front, tells c = false) ∧ parts (render rooted ks) = front ++ ks := by
  cases ks with
  | nil =>
    cases rooted with
    | true => exact ⟨[[], []], by decide +kernel, by decide +kernel⟩
    | false => exact ⟨[dot], by decide +kernel, by decide +kernel⟩
  | cons c cs =>
    have joined : parts (Bytes.join [slash] (c :: cs)) = c :: cs :=
      parts_join (by simp) fun d member => (tell d member).2
    cases rooted with
    | true =>
      refine ⟨[[]], by decide +kernel, ?_⟩
      simp only [render, if_true, parts_rooted, joined, List.singleton_append]
    | false =>
      refine ⟨[], by simp, ?_⟩
      simp only [render, Bool.false_eq_true, if_false, List.isEmpty_cons, joined, List.nil_append]

theorem render_concat (some : ks ≠ []) (c : Bytes) :
    render rooted (ks ++ [c]) = render rooted ks ++ slash :: c := by
  have joined := join_concat some c
  have empty : ks.isEmpty = false := by simpa using some
  have more : (ks ++ [c]).isEmpty = false := by simp
  cases rooted with
  | true => simp only [render, if_true, joined, List.cons_append]
  | false => simp only [render, Bool.false_eq_true, if_false, empty, more, joined]

end Render

theorem parts_clean (p : Bytes) :
    ∃ front, (∀ c ∈ front, tells c = false) ∧ parts (clean p) = front ++ kept p := by
  rw [clean_eq_render]
  exact parts_render fun c member => kept_part member

theorem tells_parts_clean (p : Bytes) : (parts (clean p)).filter tells = kept p := by
  obtain ⟨front, nothing, split⟩ := parts_clean p
  have left_out : front.filter tells = [] :=
    List.filter_eq_nil_iff.mpr fun c member => by simp [nothing c member]
  have all : (kept p).filter tells = kept p :=
    List.filter_eq_self.mpr fun c member => (kept_part member).1
  rw [split, List.filter_append, left_out, all, List.nil_append]

theorem isRooted_clean (p : Bytes) : isRooted (clean p) = isRooted p := by
  rw [clean_eq_render]
  exact isRooted_render fun c member => kept_part member

theorem foldl_keep_tells (rooted : Bool) (cs ks : List Bytes) :
    cs.foldl (keep rooted) ks = (cs.filter tells).foldl (keep rooted) ks := by
  induction cs generalizing ks with
  | nil => rfl
  | cons c cs ih =>
    cases h : tells c with
    | true => rw [List.filter_cons_of_pos h, List.foldl_cons, List.foldl_cons, ih]
    | false =>
      have silent : (c.isEmpty || c == dot) = true := by
        simpa only [tells, Bool.not_eq_false'] using h
      rw [List.filter_cons_of_neg (by simp [h]), List.foldl_cons, ih]
      simp only [keep, silent, if_true]

/-- Without double dots, cleaning only leaves out the parts that tell nothing. -/
theorem kept_of_plain {p : Bytes} (plain : dotdot ∉ parts p) : kept p = (parts p).filter tells := by
  have names : ∀ c ∈ ((parts p).filter tells).reverse, IsName c := by
    intro c member
    obtain ⟨member, told⟩ := List.mem_filter.mp (List.mem_reverse.mp member)
    simp only [tells, Bool.not_eq_true', Bool.or_eq_false_iff, List.isEmpty_eq_false_iff,
      beq_eq_false_iff_ne] at told
    exact ⟨told.1, parts_whole member, told.2, fun up => plain (up ▸ member)⟩
  have settled : Settled (isRooted p) ((parts p).filter tells).reverse := .of_names names
  have same := settled.foldl_keep
  rw [List.reverse_reverse] at same
  rw [kept, foldl_keep_tells, same, List.reverse_reverse]

theorem kept_clean (p : Bytes) : kept (clean p) = kept p := by
  have settled := (settled_kept p).foldl_keep
  rw [List.reverse_reverse] at settled
  rw [kept, isRooted_clean, foldl_keep_tells, tells_parts_clean, settled, List.reverse_reverse]

theorem clean_clean (p : Bytes) : clean (clean p) = clean p := by
  rw [clean_eq_render, isRooted_clean, kept_clean, ← clean_eq_render]

theorem clean_ne_nil (p : Bytes) : clean p ≠ [] := by
  intro none
  have same := clean_clean p
  rw [none] at same
  exact absurd same (by decide +kernel)

section Below

variable {p c : Bytes}

theorem isRooted_append (some : p ≠ []) : isRooted (p ++ slash :: c) = isRooted p := by
  cases p with
  | nil => exact absurd rfl some
  | cons b p => rfl

theorem kept_append (some : p ≠ []) (name : IsName c) : kept (p ++ slash :: c) = kept p ++ [c] := by
  have silent := name.tells
  have other : (c == dotdot) = false := beq_eq_false_iff_ne.mpr name.not_dotdot
  simp only [tells, Bool.not_eq_true'] at silent
  rw [kept, isRooted_append some, parts_append, parts_of_whole name.whole, List.foldl_append]
  simp only [List.foldl_cons, List.foldl_nil, keep, silent, other, Bool.false_eq_true, if_false,
    List.reverse_cons]
  rfl

theorem join_eq_clean (some : p ≠ []) (more : c ≠ []) : join [p, c] = clean (p ++ slash :: c) := by
  simp [join, some, more, Bytes.join]

theorem join_eq_render (some : p ≠ []) (name : IsName c) :
    join [p, c] = render (isRooted p) (kept p ++ [c]) := by
  rw [join_eq_clean some name.some, clean_eq_render, isRooted_append some, kept_append some name]

theorem join_join {q : Bytes} (some : p ≠ []) (more : q ≠ []) (name : IsName c) :
    join [join [p, q], c] = join [p, q ++ slash :: c] := by
  rw [join_eq_clean some more, join_eq_clean some (by simp), join_eq_render (clean_ne_nil _) name,
    isRooted_clean, isRooted_append some, kept_clean, clean_eq_render, ← List.cons_append,
    ← List.append_assoc, kept_append (by simp) name, isRooted_append (by simp),
    isRooted_append some]

theorem clean_join (some : p ≠ []) (name : IsName c) : clean (join [p, c]) = join [p, c] := by
  rw [join_eq_clean some name.some, clean_clean]

theorem isRooted_join (some : p ≠ []) (name : IsName c) : isRooted (join [p, c]) = isRooted p := by
  rw [join_eq_clean some name.some, isRooted_clean, isRooted_append some]

theorem tells_parts_join (some : p ≠ []) (name : IsName c) :
    (parts (join [p, c])).filter tells = kept p ++ [c] := by
  rw [join_eq_clean some name.some, tells_parts_clean, kept_append some name]

theorem reverse_whole (whole : slash ∉ c) : ∀ b ∈ c.reverse, (b != slash) = true := by
  intro b member
  simp only [bne_iff_ne]
  rintro rfl
  exact whole (List.mem_reverse.mp member)

theorem last_append (x : Bytes) (whole : slash ∉ c) : last (x ++ slash :: c) = c := by
  rw [last, List.reverse_append, List.reverse_cons, List.append_assoc,
    List.takeWhile_append_of_pos (reverse_whole whole)]
  simp

theorem last_of_whole (whole : slash ∉ c) : last c = c := by
  have all : (c.reverse ++ []).takeWhile (· != slash) = c.reverse ++ [] :=
    List.takeWhile_append_of_pos (reverse_whole whole)
  rw [List.append_nil] at all
  rw [last, all, List.reverse_reverse]

theorem last_join (some : p ≠ []) (name : IsName c) : last (join [p, c]) = c := by
  rw [join_eq_render some name]
  by_cases none : kept p = []
  · rw [none]
    cases isRooted p with
    | true => simpa [render, join_singleton] using last_append [] name.whole
    | false => simpa [render, join_singleton] using last_of_whole name.whole
  · rw [render_concat none]
    exact last_append _ name.whole

/-- A name put behind a path makes it no shorter, and loses no byte but those of a dot. -/
theorem clean_within_join (some : p ≠ []) (name : IsName c) :
    (clean p).length ≤ (join [p, c]).length ∧ ∀ b ∈ clean p, b ∈ join [p, c] ∨ b ∈ dot := by
  rw [join_eq_render some name, clean_eq_render]
  by_cases none : kept p = []
  · have long : 1 ≤ c.length := List.length_pos_iff.mpr name.some
    rw [none]
    cases isRooted p with
    | true => simp [render, Bytes.join]
    | false =>
      have short : dot.length = 1 := by decide +kernel
      exact ⟨by simpa [render, join_singleton, short] using long, fun b member => .inr member⟩
  · rw [render_concat none]
    exact ⟨by simp, fun b member => .inl (List.mem_append_left _ member)⟩

theorem extension_join (some : p ≠ []) (name : IsName c) :
    extension (join [p, c]) = extension c := by
  rw [extension, extension, last_join some name, last_of_whole name.whole]

theorem join_ne_nil (some : p ≠ []) (more : c ≠ []) : join [p, c] ≠ [] := by
  rw [join_eq_clean some more]
  exact clean_ne_nil _

end Below

end SpanGauge.Path
