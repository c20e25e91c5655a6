import SpanGauge.Pattern

/-! The matcher against the words of a pattern: it finds nothing that is not a word, and
it misses no word that what follows would accept. In which order it tries the
alternatives plays no part in this. -/
namespace SpanGauge.Pattern

variable {α β : Type}

section Words

variable {p q : Pattern α} {test : α → Bool} {w : List α}

@[simp] theorem derives_empty : (empty : Pattern α).Derives w ↔ w = [] :=
  ⟨fun h => by cases h; rfl, fun h => h ▸ .empty⟩

@[simp] theorem derives_one : (one test).Derives w ↔ ∃ a, test a = true ∧ w = [a] := by
  constructor
  · rintro ⟨⟩
    exact ⟨_, ‹_›, rfl⟩
  · rintro ⟨a, passes, rfl⟩
    exact .one passes

@[simp] theorem derives_many : (many test).Derives w ↔ ∀ a ∈ w, test a = true :=
  ⟨fun h => by cases h; assumption, .many⟩

theorem derives_seq : (seq p q).Derives w ↔ ∃ u v, w = u ++ v ∧ p.Derives u ∧ q.Derives v := by
  constructor
  · rintro ⟨⟩
    exact ⟨_, _, rfl, ‹_›, ‹_›⟩
  · rintro ⟨u, v, rfl, hp, hq⟩
    exact .seq hp hq

theorem derives_alt : (alt p q).Derives w ↔ p.Derives w ∨ q.Derives w := by
  constructor
  · rintro (_ | _)
    · exact .inl ‹_›
    · exact .inr ‹_›
  · rintro (h | h)
    · exact .left h
    · exact .right h

theorem derives_optional : (optional p).Derives w ↔ p.Derives w ∨ w = [] := by
  rw [optional, derives_alt, derives_empty]

theorem derives_word [BEq α] [LawfulBEq α] {s : List α} : (word s).Derives w ↔ w = s := by
  induction s generalizing w with
  | nil => exact derives_empty
  | cons a s ih =>
    cases s with
    | nil => simp [word]
    | cons b s => simp [word, derives_seq, ih]

theorem derives_choice {ps : List (Pattern α)} :
    (choice ps).Derives w ↔ ∃ p ∈ ps, p.Derives w := by
  induction ps with
  | nil => simp [choice]
  | cons p ps ih =>
    cases ps with
    | nil => simp [choice]
    | cons q ps => simp only [choice, derives_alt, ih, List.mem_cons, exists_eq_or_imp]

end Words

theorem Derives.rep_induction {p : Pattern α} {w : List α} (h : (rep p).Derives w)
    {P : List α → Prop} (nil : P []) (append : ∀ u v, p.Derives u → P v → P (u ++ v)) : P w := by
  generalize same : rep p = r at h
  induction h with
  | stop => exact nil
  | more hp _ _ ih =>
    cases same
    exact append _ _ hp (ih rfl)
  | _ => cases same

def Over (P : α → Prop) (p : Pattern α) : Prop := ∀ w, p.Derives w → ∀ a ∈ w, P a

def StartsWith (p : Pattern α) (a : α) : Prop := ∀ w, p.Derives w → ∃ t, w = a :: t

def EndsWith (p : Pattern α) (a : α) : Prop := ∀ w, p.Derives w → ∃ t, w = t ++ [a]

section Shape

variable {P : α → Prop} {p q : Pattern α}

theorem Over.one {test : α → Bool} (passing : ∀ a, test a = true → P a) : Over P (one test) := by
  intro w h a member
  obtain ⟨b, passes, rfl⟩ := derives_one.mp h
  cases List.mem_singleton.mp member
  exact passing a passes

theorem Over.many {test : α → Bool} (passing : ∀ a, test a = true → P a) :
    Over P (many test) :=
  fun _ h a member => passing a (derives_many.mp h a member)

theorem Over.seq (hp : Over P p) (hq : Over P q) : Over P (seq p q) := by
  intro w h a member
  obtain ⟨u, v, rfl, hu, hv⟩ := derives_seq.mp h
  exact (List.mem_append.mp member).elim (hp u hu a) (hq v hv a)

theorem Over.optional (hp : Over P p) : Over P (optional p) := by
  intro w h a member
  rcases derives_optional.mp h with h | rfl
  · exact hp w h a member
  · cases member

theorem Over.choice {ps : List (Pattern α)} (all : ∀ p ∈ ps, Over P p) :
    Over P (choice ps) := by
  intro w h
  obtain ⟨p, member, h⟩ := derives_choice.mp h
  exact all p member w h

theorem Over.word [BEq α] [LawfulBEq α] {s : List α} (all : ∀ a ∈ s, P a) :
    Over P (word s) := by
  intro w h
  exact derives_word.mp h ▸ all

theorem StartsWith.seq {a : α} (hp : p.StartsWith a) (q : Pattern α) :
    (seq p q).StartsWith a := by
  intro w h
  obtain ⟨u, v, rfl, hu, _⟩ := derives_seq.mp h
  obtain ⟨t, rfl⟩ := hp u hu
  exact ⟨t ++ v, rfl⟩

theorem EndsWith.concat {a : α} (ps : List (Pattern α)) (hq : q.EndsWith a) :
    (concat (ps ++ [q])).EndsWith a := by
  induction ps with
  | nil => exact hq
  | cons p ps ih =>
    have more : Pattern.concat (p :: ps ++ [q]) = .seq p (Pattern.concat (ps ++ [q])) := by
      cases ps <;> rfl
    intro w h
    obtain ⟨u, v, rfl, _, hv⟩ := derives_seq.mp (more ▸ h)
    obtain ⟨t, rfl⟩ := ih v hv
    exact ⟨u ++ t, (List.append_assoc u t [a]).symm⟩

end Shape

theorem mem_rests {test : α → Bool} {s t : List α} {acc : List (List α)} :
    t ∈ rests test s acc ↔ t ∈ acc ∨ ∃ w, s = w ++ t ∧ ∀ a ∈ w, test a = true := by
  induction s generalizing acc with
  | nil =>
    have runs : (∃ w, [] = w ++ t ∧ ∀ a ∈ w, test a = true) ↔ t = [] := by
      constructor
      · rintro ⟨w, split, _⟩
        exact (List.append_eq_nil_iff.mp split.symm).2
      · rintro rfl
        exact ⟨[], rfl, by simp⟩
    rw [runs, rests, List.mem_cons, or_comm]
  | cons a s ih =>
    have runs : (∃ w, a :: s = w ++ t ∧ ∀ b ∈ w, test b = true) ↔
        a :: s = t ∨ test a = true ∧ ∃ w, s = w ++ t ∧ ∀ b ∈ w, test b = true := by
      constructor
      · rintro ⟨w, split, passes⟩
        cases w with
        | nil => exact .inl split
        | cons b w =>
          obtain ⟨rfl, tail⟩ := List.cons.inj split
          exact .inr ⟨passes a (by simp), w, tail, fun c hc => passes c (by simp [hc])⟩
      · rintro (rfl | ⟨first, w, rfl, passes⟩)
        · exact ⟨[], rfl, by simp⟩
        · exact ⟨a :: w, rfl, by simpa using ⟨first, passes⟩⟩
    rw [runs, rests]
    split
    · rename_i first
      rw [ih]
      simp only [List.mem_cons, first, true_and]
      grind
    · rename_i first
      simp only [List.mem_cons, first, Bool.false_eq_true, false_and, or_false]
      grind

theorem repeating_sound {p : Pattern α} {k : List α → Option β}
    (sound : ∀ {k : List α → Option β} {s : List α} {b : β}, p.run k s = some b →
      ∃ u rest, s = u ++ rest ∧ p.Derives u ∧ k rest = some b)
    {turns s : List α} {b : β} (found : repeating p.run k turns s = some b) :
    ∃ u rest, s = u ++ rest ∧ (rep p).Derives u ∧ k rest = some b := by
  induction turns generalizing s b with
  | nil => exact ⟨[], s, rfl, .stop, found⟩
  | cons _ turns ih =>
    unfold repeating at found
    split at found
    · rename_i c once
      cases found
      obtain ⟨u, rest, rfl, hu, again⟩ := sound once
      obtain ⟨v, rest, rfl, hv, last⟩ := ih again
      exact ⟨u ++ v, rest, (List.append_assoc u v rest).symm, .more hu hv, last⟩
    · exact ⟨[], s, rfl, .stop, found⟩

theorem run_sound {p : Pattern α} {k : List α → Option β} {s : List α} {b : β}
    (found : p.run k s = some b) :
    ∃ u rest, s = u ++ rest ∧ p.Derives u ∧ k rest = some b := by
  induction p generalizing k s b with
  | empty => exact ⟨[], s, rfl, .empty, found⟩
  | one test =>
    cases s with
    | nil => cases found
    | cons a t =>
      simp only [run] at found
      split at found
      · rename_i passes
        exact ⟨[a], t, rfl, .one passes, found⟩
      · cases found
  | many test =>
    obtain ⟨rest, member, last⟩ := List.exists_of_findSome?_eq_some found
    rcases mem_rests.mp member with none | ⟨w, rfl, passes⟩
    · cases none
    · exact ⟨w, rest, rfl, .many passes, last⟩
  | seq p q ihp ihq =>
    obtain ⟨u, rest, rfl, hu, again⟩ := ihp found
    obtain ⟨v, rest, rfl, hv, last⟩ := ihq again
    exact ⟨u ++ v, rest, (List.append_assoc u v rest).symm, .seq hu hv, last⟩
  | alt p q ihp ihq =>
    simp only [run] at found
    split at found
    · rename_i c first
      cases found
      obtain ⟨u, rest, split, hu, last⟩ := ihp first
      exact ⟨u, rest, split, .left hu, last⟩
    · obtain ⟨u, rest, split, hu, last⟩ := ihq found
      exact ⟨u, rest, split, .right hu, last⟩
  | rep p ih => exact repeating_sound ih found

/-- A repetition has turns enough: each turn that reads something shortens the input, and
the others can be left out. -/
theorem repeating_complete {p : Pattern α} {k : List α → Option β}
    (complete : ∀ {k : List α → Option β} {u rest : List α}, p.Derives u →
      (k rest).isSome → (p.run k (u ++ rest)).isSome)
    {w rest : List α} (derives : (rep p).Derives w) (last : (k rest).isSome)
    {turns : List α} (enough : w.length ≤ turns.length) :
    (repeating p.run k turns (w ++ rest)).isSome := by
  refine Derives.rep_induction derives
    (P := fun w => ∀ turns : List α, w.length ≤ turns.length →
      (repeating p.run k turns (w ++ rest)).isSome) ?_ ?_ turns enough
  · intro turns _
    cases turns with
    | nil => exact last
    | cons _ turns =>
      rw [List.nil_append, repeating]
      split
      · rfl
      · exact last
  · intro u v hu ih turns enough
    cases u with
    | nil => exact ih turns enough
    | cons a u =>
      cases turns with
      | nil => simp at enough
      | cons _ turns =>
        have shorter : v.length ≤ turns.length := by simp at enough; omega
        have once := complete (k := repeating p.run k turns) hu (ih turns shorter)
        rw [List.append_assoc, repeating]
        split
        · rfl
        · rename_i missed
          rw [missed] at once
          cases once

theorem run_complete {p : Pattern α} {k : List α → Option β} {u rest : List α}
    (derives : p.Derives u) (last : (k rest).isSome) : (p.run k (u ++ rest)).isSome := by
  induction p generalizing k u rest with
  | empty => cases derives; exact last
  | one test =>
    cases derives with
    | one passes => simpa [run, passes] using last
  | many test =>
    cases derives with
    | many passes =>
      rw [run, List.findSome?_isSome_iff]
      exact ⟨rest, mem_rests.mpr (.inr ⟨u, rfl, passes⟩), last⟩
  | seq p q ihp ihq =>
    obtain ⟨u, v, rfl, hu, hv⟩ := derives_seq.mp derives
    rw [List.append_assoc]
    exact ihp hu (ihq hv last)
  | alt p q ihp ihq =>
    rw [run]
    split
    · rfl
    · rename_i missed
      rcases derives_alt.mp derives with h | h
      · have found := ihp h last
        rw [missed] at found
        cases found
      · exact ihq h last
  | rep p ih =>
    exact repeating_complete ih derives last (by simp)

theorem begins_iff {p : Pattern α} {s : List α} :
    p.begins s = true ↔ ∃ u rest, s = u ++ rest ∧ p.Derives u := by
  constructor
  · intro found
    obtain ⟨b, found⟩ := Option.isSome_iff_exists.mp found
    obtain ⟨u, rest, split, derives, _⟩ := run_sound found
    exact ⟨u, rest, split, derives⟩
  · rintro ⟨u, rest, rfl, derives⟩
    exact run_complete derives rfl

end SpanGauge.Pattern
