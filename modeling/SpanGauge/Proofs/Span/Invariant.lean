import SpanGauge.Proofs.Span.Reading

/-! The joint invariant of a reading. After every byte the signatures met so far are
pending or closed, each once; the pending ones are in the order of their lines, those
without a body last; and the closed spans lie within the lines read. -/
namespace SpanGauge

namespace Reading

/-- The invariant as the steps carry it: the resolver was told the signatures of the
lines entered, and the other lines are still to come. -/
structure Kept (ls : List Bytes) (r : Reading) : Prop where
  line_le : r.scan.line ≤ ls.length
  later : r.later = ls.drop r.scan.line
  resolver : r.scan.resolver.Kept (Signature.listed 0 (ls.take r.scan.line)) r.scan.line

theorem kept_start (ls : List Bytes) : Kept ls (start ls) where
  line_le := Nat.zero_le _
  later := rfl
  resolver := Resolver.kept_start

theorem kept_opened {n : Nat} {s : Scan} {ls : List Bytes} (line : s.line = n)
    (length : ls.length = n) (kept : s.resolver.Kept (Signature.listed 0 ls) n) (l : Bytes) :
    (s.opened l).Kept (Signature.listed 0 (ls ++ [l])) (n + 1) := by
  rw [Signature.listed_append, length, Nat.zero_add]
  cases h : Signature.ofLine l with
  | none =>
    simp only [Scan.opened, h, Signature.listed, List.append_nil]
    exact kept.later (Nat.le_succ n)
  | some sig =>
    simp only [Scan.opened, h, Signature.listed, line]
    exact kept.push sig.name

theorem kept_step {ls : List Bytes} {r t : Reading} (kept : Kept ls r) (step : Step r t) :
    Kept ls t := by
  cases step with
  | byte s before b rest later =>
    refine ⟨by simpa using kept.line_le, by simpa using kept.later, ?_⟩
    rw [Scan.byte_resolver, Scan.byte_line]
    exact kept.resolver.braces _
  | line s before l later =>
    have rest : l :: later = ls.drop s.line := kept.later
    have here : ls[s.line]? = some l := by
      rw [← List.head?_drop, ← rest]
      rfl
    obtain ⟨bound, _⟩ := List.getElem?_eq_some_iff.mp here
    refine ⟨bound, ?_, ?_⟩
    · change later = ls.drop (s.line + 1)
      rw [← List.tail_drop, ← rest]
      rfl
    · have taken : ls.take (s.line + 1) = ls.take s.line ++ [l] := by
        rw [List.take_add_one, here]
        rfl
      change (s.opened l).Kept (Signature.listed 0 (ls.take (s.line + 1))) (s.line + 1)
      rw [taken]
      exact kept_opened rfl (List.length_take_of_le (Nat.le_of_lt bound)) kept.resolver l

theorem kept_reached {ls : List Bytes} {r : Reading} (reached : Reached ls r) : Kept ls r := by
  induction reached with
  | refl => exact kept_start ls
  | tail _ step ih => exact kept_step ih step

structure Accounted (ls : List Bytes) (r : Reading) : Prop where
  line_le : r.scan.line ≤ ls.length
  later : r.later = ls.drop r.scan.line
  partition : r.scan.resolver.heads.Perm
    ((Signature.listed 0 (ls.take r.scan.line)).map fun s => (s.1, (s.2 : Int)))
  distinct : r.scan.resolver.heads.Nodup
  increasing : r.scan.resolver.stack.Pairwise fun a b => a.first < b.first
  current : ∀ c ∈ r.scan.resolver.stack, c.first ≤ r.scan.line
  waiting : r.scan.resolver.stack.filter (fun c => c.depth.isNone) <:+ r.scan.resolver.stack
  ends : r.scan.resolver.closed.reverse.Pairwise fun a b => a.last ≤ b.last
  starts : r.scan.resolver.closed.reverse.Pairwise fun a b => a.first ≠ b.first
  spans : ∀ s ∈ r.scan.resolver.closed,
    1 ≤ s.first ∧ s.first ≤ s.last ∧ s.last ≤ r.scan.line ∧ s.count = s.last - s.first + 1 ∧
      ∃ l sig, ls[s.first.toNat - 1]? = some l ∧ Signature.ofLine l = some sig ∧
        sig.name = s.name

end Reading

namespace Resolver

theorem waiting_prefix {cs : List Pending}
    (order : cs.Pairwise fun a b => b.depth = none → a.depth = none) :
    cs.filter (fun c => c.depth.isNone) <+: cs := by
  induction cs with
  | nil => exact List.prefix_refl _
  | cons c cs ih =>
    obtain ⟨first, rest⟩ := List.pairwise_cons.mp order
    cases h : c.depth with
    | none =>
      simp only [List.filter_cons, h, Option.isNone_none, if_true]
      exact List.prefix_cons_inj c |>.mpr (ih rest)
    | some d =>
      have pinned : cs.filter (fun c => c.depth.isNone) = [] := by
        apply List.filter_eq_nil_iff.mpr
        intro a ha waits
        have none := first a ha (Option.isNone_iff_eq_none.mp waits)
        rw [h] at none
        cases none
      simp [h, pinned]

theorem Kept.lines_distinct {n : Nat} {r : Resolver} {ls : List Bytes}
    (kept : r.Kept (Signature.listed 0 ls) n) : (r.heads.map Prod.snd).Nodup := by
  have lines : (((Signature.listed 0 ls).map fun s => (s.1, (s.2 : Int))).map Prod.snd).Nodup := by
    rw [List.map_map]
    refine List.pairwise_map.mpr ((Signature.listed_increasing 0 ls).imp ?_)
    intro s t lt same
    have equal : (s.2 : Int) = t.2 := same
    omega
  exact ((kept.accounted.map Prod.snd).nodup_iff).mpr lines

theorem Kept.named {n m : Nat} {r : Resolver} {ls : List Bytes}
    (kept : r.Kept (Signature.listed 0 (ls.take m)) n) {s : Span} (member : s ∈ r.closed) :
    ∃ l sig, ls[s.first.toNat - 1]? = some l ∧ Signature.ofLine l = some sig ∧
      sig.name = s.name := by
  have told : s.head ∈ r.heads := List.mem_append_right _ (List.mem_map_of_mem member)
  obtain ⟨t, ht, same⟩ := List.mem_map.mp (kept.accounted.subset told)
  obtain ⟨i, l, sig, hl, hs, rfl⟩ := Signature.mem_listed.mp ht
  obtain ⟨name, first⟩ := Prod.mk.inj same
  have place : s.first.toNat - 1 = i := by
    have h : ((0 + i + 1 : Nat) : Int) = s.first := first
    omega
  refine ⟨l, sig, ?_, hs, name⟩
  rw [place]
  rw [List.getElem?_take] at hl
  split at hl
  · exact hl
  · contradiction

end Resolver

theorem Reading.Kept.accounted {ls : List Bytes} {r : Reading} (kept : r.Kept ls) :
    r.Accounted ls where
  line_le := kept.line_le
  later := kept.later
  partition := kept.resolver.accounted
  distinct := List.Pairwise.of_map Prod.snd (fun _ _ ne same => ne (congrArg Prod.snd same))
    kept.resolver.lines_distinct
  increasing := List.pairwise_reverse.mpr (kept.resolver.stacked.imp And.left)
  current c hc := (kept.resolver.current c (List.mem_reverse.mp hc)).2
  waiting := by
    have h := Resolver.waiting_prefix (kept.resolver.stacked.imp And.right)
    rw [Resolver.stack, List.filter_reverse]
    exact List.reverse_suffix.mpr h
  ends := List.pairwise_reverse.mpr kept.resolver.ended
  starts := by
    have h := kept.resolver.lines_distinct
    rw [Resolver.heads, List.map_append, List.map_map, List.map_map] at h
    have closed := (List.nodup_append.mp h).2.1
    exact List.pairwise_reverse.mpr ((List.pairwise_map.mp closed).imp Ne.symm)
  spans s hs := by
    have h := kept.resolver.spans s hs
    exact ⟨h.1, h.2.1, h.2.2.1, h.2.2.2, kept.resolver.named hs⟩

theorem Span.extract_reached (text : Bytes) :
    ∃ r, Reading.Reached (Text.lines text) r ∧
      r.scan.resolver.closed.reverse = Span.extract text := by
  obtain ⟨last, reached⟩ := Reading.reached_end (Text.lines text)
  exact ⟨_, reached, rfl⟩

theorem Span.extract_closed {text : Bytes} {s : Span} (member : s ∈ Span.extract text) :
    ∃ r, Reading.Reached (Text.lines text) r ∧ s ∈ r.scan.resolver.closed := by
  obtain ⟨r, reached, same⟩ := Span.extract_reached text
  exact ⟨r, reached, List.mem_reverse.mp (same ▸ member)⟩

/-- Between any two bytes of any reading every signature met is pending or closed, each
exactly once, with the pending ones in order and the closed ones within the lines read;
so every span of a text lies within its lines. -/
theorem reading_accounts_for_signatures :
    (∀ (ls : List Bytes) (r : Reading), Reading.Reached ls r → r.Accounted ls) ∧
    ∀ (text : Bytes), ∀ s ∈ Span.extract text,
      1 ≤ s.first ∧ s.first ≤ s.last ∧ s.last ≤ (Text.lines text).length := by
  have every : ∀ (ls : List Bytes) (r : Reading), Reading.Reached ls r → r.Accounted ls :=
    fun ls r reached => (Reading.kept_reached reached).accounted
  refine ⟨every, ?_⟩
  intro text s member
  obtain ⟨r, reached, same⟩ := Span.extract_reached text
  have accounted := every _ r reached
  have closed : s ∈ r.scan.resolver.closed := by
    rw [← List.mem_reverse, same]
    exact member
  obtain ⟨first, last, bound, _⟩ := accounted.spans s closed
  exact ⟨first, last, Int.le_trans bound (Int.ofNat_le.mpr accounted.line_le)⟩

/-- A reading that has closed one signature and waits for the body of the next. -/
theorem reading_accounts_between_lines :
    ∃ r, Reading.Reached [Bytes.of "f() \x7b \x7d", Bytes.of "function g()"] r ∧
      r.scan.resolver.stack = [⟨Bytes.of "g", 2, none⟩] ∧
      r.scan.resolver.closed = [Span.ofLines (Bytes.of "f") 1 1] ∧
      r.Accounted [Bytes.of "f() \x7b \x7d", Bytes.of "function g()"] := by
  obtain ⟨last, steps⟩ := Reading.steps_rest (({} : Scan).enter (Bytes.of "f() \x7b \x7d")) none
    (Bytes.of "f() \x7b \x7d") [Bytes.of "function g()"]
  have reached := (steps.head (.line {} none _ _)).tail (.line _ last _ _)
  exact ⟨_, reached, by decide +kernel, by decide +kernel,
    reading_accounts_for_signatures.1 _ _ reached⟩

end SpanGauge
