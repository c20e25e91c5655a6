import SpanGauge.Proofs.FileTree.Resolve

/-! Going on from a place. A path that leads to a place can be gone on with from there, with
the links that are left. How many these are counts only where they run out. -/
namespace SpanGauge

namespace Path

structure Continues (p : Bytes) (names : List Bytes) (q : Bytes) : Prop where
  rooted : isRooted q = isRooted p
  kept : kept q = kept p ++ names

theorem clean_slash {p : Bytes} (some : p ≠ []) : clean (p ++ [slash]) = clean p := by
  have kept : Path.kept (p ++ [slash]) = Path.kept p := by
    rw [Path.kept, Path.kept, isRooted_append some, parts_append, List.foldl_append]
    rfl
  rw [clean_eq_render, clean_eq_render, isRooted_append some, kept]

theorem mem_join {b : UInt8} {ks : List Bytes} (apart : b ≠ slash) :
    b ∈ Bytes.join [slash] ks ↔ ∃ c ∈ ks, b ∈ c := by
  induction ks with
  | nil => simp [Bytes.join]
  | cons c ks ih =>
    cases ks with
    | nil => simp [join_singleton]
    | cons d ds =>
      rw [join_cons (by simp), List.mem_append, List.mem_cons, ih]
      simp [apart]

theorem zero_mem_clean {p : Bytes} : (0 : UInt8) ∈ clean p ↔ ∃ c ∈ kept p, (0 : UInt8) ∈ c := by
  have apart : (0 : UInt8) ≠ slash := by decide
  rw [clean_eq_render, render]
  split
  · simp [apart, mem_join apart]
  split
  · rename_i none
    have other : (0 : UInt8) ∉ dot := by decide +kernel
    simp [other, List.isEmpty_iff.mp none]
  · exact mem_join apart

end Path

namespace FileTree

open SpanGauge.Path (tells dotdot Continues)

def Cause.IsLimit (c : Cause) : Prop := c = .nameTooLong ∨ c = .linkLoop

theorem Cause.IsLimit.ne_missing {c : Cause} (limit : c.IsLimit) : c ≠ .missing := by
  rcases limit with rfl | rfl
  · decide
  · decide

section Links

theorem walkTo_more {top : Node} {follow : Bool} {links links' : Nat} {here ps : List Bytes}
    (more : links ≤ links') :
    walkTo top follow links here ps = .error .linkLoop ∨
      walkTo top follow links' here ps = walkTo top follow links here ps := by
  match ps with
  | [] => exact .inr (by rw [walkTo_nil, walkTo_nil])
  | c :: cs =>
    simp only [walkTo_cons]
    cases top.descend? here.reverse with
    | none => exact .inr rfl
    | some n =>
      by_cases file : (!n.isFolder) = true
      · simp only [if_pos file, or_true]
      simp only [if_neg file]
      by_cases silent : (c.isEmpty || c == Path.dot) = true
      · simpa only [if_pos silent] using walkTo_more more
      simp only [if_neg silent]
      by_cases up : (c == dotdot) = true
      · simpa only [if_pos up] using walkTo_more more
      simp only [if_neg up]
      by_cases long : 255 < c.length
      · simp only [if_pos long, or_true]
      simp only [if_neg long]
      cases n.child? c with
      | none => exact .inr rfl
      | some m =>
        cases m with
        | file _ | folder _ => exact walkTo_more more
        | link target =>
          by_cases stays : (cs.isEmpty && !follow) = true
          · simp only [if_pos stays, or_true]
          simp only [if_neg stays]
          by_cases none : links = 0
          · simp only [if_pos none, true_or]
          have some : links' ≠ 0 := by omega
          simpa only [if_neg none, if_neg some] using walkTo_more (by omega)
termination_by (links, ps.length)

theorem walkTo_any {top : Node} {follow : Bool} (links links' : Nat) {here ps : List Bytes} :
    walkTo top follow links here ps = .error .linkLoop ∨
      walkTo top follow links' here ps = .error .linkLoop ∨
      walkTo top follow links' here ps = walkTo top follow links here ps := by
  rcases Nat.le_total links links' with more | less
  · rcases walkTo_more more with out | same
    · exact .inl out
    · exact .inr (.inr same)
  · rcases walkTo_more less with out | same
    · exact .inr (.inl out)
    · exact .inr (.inr same.symm)

/-- Whatever comes behind a path is followed from where the path leads. -/
theorem Leads.onward {top : Node} {links : Nat} {here ps r : List Bytes}
    (h : Leads top true links here ps r) :
    ∃ left, ∀ qs, walkTo top true links here (ps ++ qs) = walkTo top true left r qs := by
  induction h with
  | @done links _ => exact ⟨links, fun _ => rfl⟩
  | silent folder nothing _ ih =>
    obtain ⟨left, onward⟩ := ih
    exact ⟨left, fun qs => by rw [List.cons_append, walkTo_silent folder nothing, onward]⟩
  | up folder _ ih =>
    obtain ⟨left, onward⟩ := ih
    exact ⟨left, fun qs => by rw [List.cons_append, walkTo_up folder, onward]⟩
  | down folder names child real _ ih =>
    obtain ⟨left, onward⟩ := ih
    exact ⟨left, fun qs => by rw [List.cons_append, walkTo_down folder names child real, onward]⟩
  | link folder names child _ _ ih =>
    obtain ⟨left, onward⟩ := ih
    refine ⟨left, fun qs => ?_⟩
    rw [List.cons_append, walkTo_link folder names child (.inr rfl), ← List.append_assoc, onward]
  | stop _ _ _ stays => cases stays

/-- A slash behind a path to a folder changes nothing but that a link at its end is followed. -/
theorem Leads.through {top : Node} {links : Nat} {here ps r : List Bytes}
    {es : List (Bytes × Node)} (h : Leads top true links here ps r) (at_end : Folder top r es)
    (follow : Bool) : Leads top follow links here (ps ++ [[]]) r := by
  induction h with
  | done => exact .silent at_end rfl .done
  | silent folder nothing _ ih => exact .silent folder nothing (ih at_end)
  | up folder _ ih => exact .up folder (ih at_end)
  | down folder names child real _ ih => exact .down folder names child real (ih at_end)
  | link folder names child _ _ ih =>
    have rest := ih at_end
    rw [List.append_assoc] at rest
    exact .link folder names child (.inl (by simp)) rest
  | stop _ _ _ stays => cases stays

end Links

section Paths

variable {t : FileTree} {p p' q q' : Bytes} {place names : List Bytes}

theorem resolve_of_zero (zero : (0 : UInt8) ∈ p) : t.resolve true p = .error .badName := by
  have some : p.isEmpty = false := by simpa using List.ne_nil_of_mem zero
  have inside : p.has 0 = true := by simpa [Bytes.has] using zero
  simp only [resolve, some, inside, Bool.false_eq_true, if_false, if_true]

theorem resolve_of_long (some : p ≠ []) (no_zero : (0 : UInt8) ∉ p)
    (long : longestPath < p.length) : t.resolve true p = .error .nameTooLong := by
  have some : p.isEmpty = false := by simpa using some
  have no_zero : p.has 0 = false := Bytes.has_eq_false.mpr no_zero
  simp only [resolve, some, no_zero, long, Bool.false_eq_true, if_false, if_true]

theorem resolve_onward (opens : t.resolve true (Path.clean p) = .ok place)
    (behind : Continues p names q) (sound : Sound (Path.clean q)) :
    ∃ left, t.resolve true (Path.clean q) = walkTo t.top true left place names := by
  obtain ⟨-, leads⟩ := resolve_eq_ok.mp opens
  obtain ⟨es, folder⟩ := leads.starts (Path.parts_ne_nil _)
  obtain ⟨front, nothing, parts⟩ := Path.parts_clean q
  have told := leads.told
  rw [Path.tells_parts_clean] at told
  obtain ⟨left, onward⟩ := (told.behind folder nothing).onward
  refine ⟨left, ?_⟩
  rw [resolve_of_sound sound, parts, behind.kept, ← List.append_assoc, Path.isRooted_clean,
    behind.rooted, ← Path.isRooted_clean p, onward]

theorem zero_onward (opens : t.resolve true (Path.clean p) = .ok place)
    (behind : Continues p names q) :
    (0 : UInt8) ∈ Path.clean q ↔ ∃ c ∈ names, (0 : UInt8) ∈ c := by
  have clear : ∀ c ∈ Path.kept p, (0 : UInt8) ∉ c := fun c member zero =>
    (resolve_eq_ok.mp opens).1.no_zero (Path.zero_mem_clean.mpr ⟨c, member, zero⟩)
  rw [Path.zero_mem_clean, behind.kept]
  constructor
  · rintro ⟨c, member, zero⟩
    rcases List.mem_append.mp member with front | back
    · exact absurd zero (clear c front)
    · exact ⟨c, back, zero⟩
  · rintro ⟨c, member, zero⟩
    exact ⟨c, List.mem_append_right _ member, zero⟩

theorem resolve_same (opens : t.resolve true (Path.clean p) = .ok place)
    (opens' : t.resolve true (Path.clean p') = .ok place) (behind : Continues p names q)
    (behind' : Continues p' names q') :
    (∃ c, t.resolve true (Path.clean q) = .error c ∧ c.IsLimit) ∨
      (∃ c, t.resolve true (Path.clean q') = .error c ∧ c.IsLimit) ∨
      t.resolve true (Path.clean q') = t.resolve true (Path.clean q) := by
  by_cases zero : ∃ c ∈ names, (0 : UInt8) ∈ c
  · rw [resolve_of_zero ((zero_onward opens behind).mpr zero),
      resolve_of_zero ((zero_onward opens' behind').mpr zero)]
    exact .inr (.inr rfl)
  have clear := mt (zero_onward opens behind).mp zero
  have clear' := mt (zero_onward opens' behind').mp zero
  by_cases long : longestPath < (Path.clean q).length
  · exact .inl ⟨_, resolve_of_long (Path.clean_ne_nil q) clear long, .inl rfl⟩
  by_cases long' : longestPath < (Path.clean q').length
  · exact .inr (.inl ⟨_, resolve_of_long (Path.clean_ne_nil q') clear' long', .inl rfl⟩)
  obtain ⟨left, onward⟩ := resolve_onward opens behind
    ⟨Path.clean_ne_nil q, clear, Nat.not_lt.mp long⟩
  obtain ⟨left', onward'⟩ := resolve_onward opens' behind'
    ⟨Path.clean_ne_nil q', clear', Nat.not_lt.mp long'⟩
  rw [onward, onward']
  rcases walkTo_any left left' with out | out | same
  · exact .inl ⟨_, out, .inr rfl⟩
  · exact .inr (.inl ⟨_, out, .inr rfl⟩)
  · exact .inr (.inr same)

theorem resolve_slash {es : List (Bytes × Node)} (found : t.resolve true p = .ok place)
    (folder : Folder t.top place es) (short : p.length < longestPath) (follow : Bool) :
    t.resolve follow (p ++ [Path.slash]) = .ok place := by
  obtain ⟨sound, leads⟩ := resolve_eq_ok.mp found
  have parts : Path.parts (p ++ [Path.slash]) = Path.parts p ++ [[]] := Path.parts_append p []
  refine resolve_eq_ok.mpr ⟨⟨by simp, ?_, ?_⟩, ?_⟩
  · have apart : (0 : UInt8) ≠ Path.slash := by decide
    simp [sound.no_zero, apart]
  · rw [List.length_append]
    exact short
  · rw [parts, Path.isRooted_append sound.some]
    exact leads.through folder follow

theorem node_of_error {follow : Bool} {c : Cause} (refused : t.resolve follow p = .error c) :
    t.node follow p = .error c := by
  rw [node, refused]

/-- What a path with names behind it leads to does not change with the path, unless the system
refuses the other one for its limits. -/
theorem node_same (opens : t.resolve true (Path.clean p) = .ok place)
    (opens' : t.resolve true (Path.clean p') = .ok place) (behind : Continues p names q)
    (behind' : Continues p' names q')
    (fine : ∀ c, t.node true (Path.clean q) = .error c → ¬ c.IsLimit) :
    t.node true (Path.clean q') = t.node true (Path.clean q) ∨
      ∃ c, t.node true (Path.clean q') = .error c ∧ c.IsLimit := by
  rcases resolve_same opens opens' behind behind' with ⟨c, out, limit⟩ | ⟨c, out, limit⟩ | same
  · exact absurd limit (fine c (node_of_error out))
  · exact .inr ⟨c, node_of_error out, limit⟩
  · left
    rw [node, node, same]

end Paths

end FileTree

end SpanGauge
