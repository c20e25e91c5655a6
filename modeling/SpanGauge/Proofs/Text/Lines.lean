import SpanGauge.Text.Lines

/-! Cutting a text at one byte is the list operation of that kind, and the lines of a
text are its pieces less a carriage return at the end of each. -/
namespace SpanGauge

namespace Bytes

theorem splitAt_eq_splitOn (sep : UInt8) (s : Bytes) : splitAt sep s = s.splitOn sep := by
  -- both keep the current piece reversed; the fold also keeps the pieces before it
  have pieces : ∀ (s : Bytes) (done : List Bytes) (current : Bytes),
      (let r := s.foldl
        (fun (acc : List Bytes × Bytes) b =>
          if b = sep then (acc.2.reverse :: acc.1, []) else (acc.1, b :: acc.2)) (done, current)
       (r.2.reverse :: r.1).reverse) =
        done.reverse ++ List.splitOnPPrepend (· == sep) s current := by
    intro s
    induction s with
    | nil => intro done current; simp
    | cons b s ih =>
      intro done current
      by_cases h : b = sep
      · simp [List.splitOnPPrepend_cons_pos, h, ih]
      · simp [List.splitOnPPrepend_cons_neg, h, ih]
  exact (pieces s [] []).trans rfl

theorem not_mem_of_splitOn {sep : UInt8} {s l : Bytes} (member : l ∈ s.splitOn sep) :
    sep ∉ l := by
  induction s generalizing l with
  | nil => simp_all
  | cons b s ih =>
    obtain ⟨m, ms, first⟩ := List.exists_cons_of_ne_nil (List.splitOn_ne_nil sep s)
    rw [List.splitOn_cons_eq_if_modifyHead] at member
    split at member
    · rcases List.mem_cons.mp member with rfl | member
      · simp
      · exact ih member
    · rename_i other
      rw [first, List.modifyHead_cons] at member
      rcases List.mem_cons.mp member with rfl | member
      · have tail := ih (l := m) (by simp [first])
        rw [List.mem_cons, not_or]
        exact ⟨fun same => other (by simp [same]), tail⟩
      · exact ih (by simp [first, member])

theorem has_eq_false {p : Bytes} {b : UInt8} : p.has b = false ↔ b ∉ p := by
  simp only [has, List.any_eq_false, beq_iff_eq]
  constructor
  · intro none member
    exact none b member rfl
  · rintro absent c member rfl
    exact absent member

theorem dropTrail_single (s : Bytes) (b : UInt8) :
    (∃ t, s = t ++ [b] ∧ dropTrail s [b] = t) ∨ dropTrail s [b] = s := by
  by_cases ends : [b] <:+ s
  · obtain ⟨t, rfl⟩ := ends
    exact .inl ⟨t, rfl, by simp [dropTrail]⟩
  · exact .inr (by simp [dropTrail, ends])

theorem dropTrail_last (s : Bytes) (b : UInt8) :
    dropTrail s [b] = if s.getLast? == some b then s.dropLast else s := by
  rcases List.eq_nil_or_concat s with rfl | ⟨t, c, rfl⟩
  · rfl
  · by_cases same : c = b
    · simp [dropTrail, same]
    · have apart : ¬ [b] <:+ t ++ [c] := by
        rintro ⟨u, ends⟩
        exact same (List.singleton_inj.mp (List.append_inj' ends rfl).2).symm
      simp [dropTrail, same, apart]

theorem dropLead_single (s : Bytes) (b : UInt8) :
    dropLead s [b] = if s.head? == some b then s.tail else s := by
  cases s with
  | nil => rfl
  | cons c s =>
    by_cases same : c = b
    · simp [dropLead, same]
    · simp [dropLead, same, Ne.symm same]

theorem dropLead_suffix (s p : Bytes) : dropLead s p <:+ s := by
  unfold dropLead
  split
  · exact List.drop_suffix ..
  · exact List.suffix_refl s

theorem mem_of_mem_dropLead {s p : Bytes} {b : UInt8} (member : b ∈ dropLead s p) : b ∈ s :=
  (dropLead_suffix s p).subset member

theorem mem_of_mem_dropTrail {s p : Bytes} {b : UInt8} (member : b ∈ dropTrail s p) : b ∈ s := by
  unfold dropTrail at member
  split at member
  · exact List.mem_of_mem_take member
  · exact member

end Bytes

theorem splitAt_lines {ls : List Bytes} (lines : ∀ l ∈ ls, Text.feed ∉ l) (rest : Bytes) :
    Bytes.splitAt Text.feed (ls.flatMap (· ++ [Text.feed]) ++ rest) =
      ls ++ Bytes.splitAt Text.feed rest := by
  induction ls with
  | nil => rfl
  | cons l ls ih =>
    have later := ih fun m member => lines m (List.mem_cons_of_mem l member)
    simp only [Bytes.splitAt_eq_splitOn] at later ⊢
    rw [List.flatMap_cons, List.append_assoc, List.append_assoc, List.singleton_append,
      List.splitOn_append_cons_self, List.splitOn_eq_singleton (lines l List.mem_cons_self), later]
    rfl

theorem Text.lines_of_ne_nil {text : Bytes} (some : text ≠ []) :
    Text.lines text = (text.splitOn Text.feed).map fun l => Bytes.dropTrail l [Text.carriage] := by
  rw [Text.lines, if_neg (by simpa using some), Bytes.splitAt_eq_splitOn]

/-- The stretches between line feeds, each less a carriage return at its end. They are the
lines of the text, only that the empty text has one too. -/
def Text.pieces (text : Bytes) : List Bytes :=
  (text.splitOn Text.feed).map fun l => Bytes.dropTrail l [Text.carriage]

theorem Text.lines_eq_pieces {text : Bytes} (some : text ≠ []) :
    Text.lines text = Text.pieces text :=
  Text.lines_of_ne_nil some

theorem Text.pieces_append (a b : Bytes) :
    Text.pieces (a ++ Text.feed :: b) = Text.pieces a ++ Text.pieces b := by
  simp only [Text.pieces, List.splitOn_append_cons_self, List.map_append]

theorem Text.pieces_single {l : Bytes} (one : Text.feed ∉ l) :
    Text.pieces l = [Bytes.dropTrail l [Text.carriage]] := by
  simp only [Text.pieces, List.splitOn_eq_singleton one, List.map_cons, List.map_nil]

theorem Text.pieces_length (text : Bytes) :
    (Text.pieces text).length = text.count Text.feed + 1 := by
  rw [Text.pieces, List.length_map]
  induction text with
  | nil => rfl
  | cons b rest ih =>
    by_cases feeds : b = Text.feed
    · simp [List.splitOn_cons_eq_if_modifyHead, feeds, ih]
    · simp [List.splitOn_cons_eq_if_modifyHead, feeds, ih]

end SpanGauge
