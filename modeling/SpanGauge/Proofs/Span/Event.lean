import SpanGauge.Proofs.Lexer.Run
import SpanGauge.Span.Extract

/-! A reading in two stages. The lexer turns the lines into code braces with their line
numbers and looks at nothing else; the resolver runs over these braces merged with the
signatures. This gives the same result as reading line by line. -/
namespace SpanGauge

inductive Event where
  | signature (name : Bytes) (line : Nat)
  | brace (b : Brace) (line : Nat)
  deriving DecidableEq, Repr

def Event.line : Event → Nat
  | .signature _ line => line
  | .brace _ line => line

namespace Resolver

def event (r : Resolver) : Event → Resolver
  | .signature name line => r.push name line
  | .brace b line => r.brace line b

def run (r : Resolver) (es : List Event) : Resolver := es.foldl event r

@[simp] theorem run_nil (r : Resolver) : r.run [] = r := rfl

@[simp] theorem run_cons (r : Resolver) (e : Event) (es : List Event) :
    r.run (e :: es) = (r.event e).run es := rfl

@[simp] theorem run_append (r : Resolver) (es fs : List Event) :
    r.run (es ++ fs) = (r.run es).run fs := by
  simp [run, List.foldl_append]

theorem run_braces (r : Resolver) (line : Nat) (bs : List Brace) :
    r.run (bs.map fun b => .brace b line) = r.braces line bs := by
  simp only [run, braces, List.foldl_map]
  rfl

end Resolver

def Signature.listed (n : Nat) : List Bytes → List (Bytes × Nat)
  | [] => []
  | l :: ls =>
    match Signature.ofLine l with
    | some sig => (sig.name, n + 1) :: listed (n + 1) ls
    | none => listed (n + 1) ls

namespace Event

def ofSignature (s : Bytes × Nat) : Event := .signature s.1 s.2
def ofBrace (b : Brace × Nat) : Event := .brace b.1 b.2

/-- Two sequences in the order of their lines merged into one: each event of the first
goes before the events of the second at its line or later. -/
def merge : List Event → List Event → List Event
  | [], fs => fs
  | e :: es, fs =>
    fs.takeWhile (fun f => f.line < e.line) ++
      e :: merge es (fs.dropWhile fun f => f.line < e.line)

def ofLines (x : Lexer) (n : Nat) (ls : List Bytes) : List Event :=
  merge ((Signature.listed n ls).map ofSignature) ((x.braces n ls).map ofBrace)

def ofText (text : Bytes) : List Event := ofLines {} 0 (Text.lines text)

theorem mem_merge {es fs : List Event} {e : Event} : e ∈ merge es fs ↔ e ∈ es ∨ e ∈ fs := by
  induction es generalizing fs with
  | nil => simp [merge]
  | cons f es ih =>
    have parts : e ∈ fs ↔ e ∈ fs.takeWhile (fun g => g.line < f.line) ∨
        e ∈ fs.dropWhile fun g => g.line < f.line := by
      rw [← List.mem_append, List.takeWhile_append_dropWhile]
    rw [merge, List.mem_append, List.mem_cons, List.mem_cons, ih, parts]
    grind

theorem merge_first (e : Event) (es fs : List Event) (low : ∀ f ∈ fs, e.line ≤ f.line) :
    merge (e :: es) fs = e :: merge es fs := by
  cases fs with
  | nil => simp [merge]
  | cons f fs =>
    have h : ¬ f.line < e.line := Nat.not_lt_of_le (low f (by simp))
    simp [merge, h]

theorem merge_lower (es fs gs : List Event) (low : ∀ f ∈ fs, ∀ e ∈ es, f.line < e.line) :
    merge es (fs ++ gs) = fs ++ merge es gs := by
  cases es with
  | nil => rfl
  | cons e es =>
    have below : ∀ f ∈ fs, decide (f.line < e.line) = true :=
      fun f hf => decide_eq_true (low f hf e (by simp))
    simp only [merge, List.takeWhile_append_of_pos below, List.dropWhile_append_of_pos below,
      List.append_assoc]

end Event

theorem Signature.mem_listed {n : Nat} {ls : List Bytes} {s : Bytes × Nat} :
    s ∈ Signature.listed n ls ↔
      ∃ i l sig, ls[i]? = some l ∧ Signature.ofLine l = some sig ∧ s = (sig.name, n + i + 1) := by
  induction ls generalizing n with
  | nil => simp [Signature.listed]
  | cons l ls ih =>
    have tail : s ∈ Signature.listed (n + 1) ls ↔ ∃ i k sig, (l :: ls)[i + 1]? = some k ∧
        Signature.ofLine k = some sig ∧ s = (sig.name, n + (i + 1) + 1) := by
      rw [ih]
      simp only [List.getElem?_cons_succ, Nat.add_assoc, Nat.add_comm 1]
    have split : (∃ i k sig, (l :: ls)[i]? = some k ∧ Signature.ofLine k = some sig ∧
        s = (sig.name, n + i + 1)) ↔
        (∃ sig, Signature.ofLine l = some sig ∧ s = (sig.name, n + 1)) ∨
          s ∈ Signature.listed (n + 1) ls := by
      rw [tail]
      constructor
      · rintro ⟨i, k, sig, hk, hs, he⟩
        cases i with
        | zero =>
          cases Option.some.inj hk
          exact .inl ⟨sig, hs, he⟩
        | succ i => exact .inr ⟨i, k, sig, hk, hs, he⟩
      · rintro (⟨sig, hs, he⟩ | ⟨i, k, sig, hk, hs, he⟩)
        · exact ⟨0, l, sig, rfl, hs, he⟩
        · exact ⟨i + 1, k, sig, hk, hs, he⟩
    rw [split]
    cases h : Signature.ofLine l with
    | none => simp [Signature.listed, h]
    | some sig => simp [Signature.listed, h]

theorem Signature.listed_lines {n : Nat} {ls : List Bytes} {s : Bytes × Nat}
    (member : s ∈ Signature.listed n ls) : n < s.2 ∧ s.2 ≤ n + ls.length := by
  obtain ⟨i, l, sig, hl, _, rfl⟩ := Signature.mem_listed.mp member
  obtain ⟨bound, _⟩ := List.getElem?_eq_some_iff.mp hl
  dsimp only
  omega

theorem Signature.listed_increasing (n : Nat) (ls : List Bytes) :
    (Signature.listed n ls).Pairwise fun s t => s.2 < t.2 := by
  induction ls generalizing n with
  | nil => exact .nil
  | cons l ls ih =>
    unfold Signature.listed
    split
    · refine List.pairwise_cons.mpr ⟨?_, ih (n + 1)⟩
      intro t ht
      exact (Signature.listed_lines ht).1
    · exact ih (n + 1)

theorem Signature.listed_append (n : Nat) (ls ms : List Bytes) :
    Signature.listed n (ls ++ ms) =
      Signature.listed n ls ++ Signature.listed (n + ls.length) ms := by
  induction ls generalizing n with
  | nil => rfl
  | cons l ls ih =>
    have shift : n + (ls.length + 1) = n + 1 + ls.length := by omega
    cases h : Signature.ofLine l with
    | none => simp only [List.cons_append, Signature.listed, h, ih, List.length_cons, shift]
    | some sig => simp only [List.cons_append, Signature.listed, h, ih, List.length_cons, shift]

theorem Lexer.braces_later {x : Lexer} {n : Nat} {ls : List Bytes} {b : Brace × Nat}
    (member : b ∈ x.braces n ls) : n < b.2 := by
  induction ls generalizing x n with
  | nil => cases member
  | cons l ls ih =>
    rcases List.mem_append.mp member with member | member
    · obtain ⟨c, _, rfl⟩ := List.mem_map.mp member
      exact Nat.lt_succ_self n
    · exact Nat.lt_of_succ_lt (ih member)

namespace Event

theorem mem_ofLines {x : Lexer} {n : Nat} {ls : List Bytes} {e : Event} :
    e ∈ ofLines x n ls ↔ (∃ s ∈ Signature.listed n ls, ofSignature s = e) ∨
      ∃ b ∈ x.braces n ls, ofBrace b = e := by
  simp only [ofLines, mem_merge, List.mem_map]

theorem ofLines_later {x : Lexer} {n : Nat} {ls : List Bytes} {e : Event}
    (member : e ∈ ofLines x n ls) : n < e.line := by
  rcases mem_ofLines.mp member with ⟨s, hs, rfl⟩ | ⟨b, hb, rfl⟩
  · exact (Signature.listed_lines hs).1
  · exact Lexer.braces_later hb

def ofHead (n : Nat) (l : Bytes) : List Event :=
  match Signature.ofLine l with
  | some sig => [.signature sig.name (n + 1)]
  | none => []

@[simp] theorem ofLines_nil (x : Lexer) (n : Nat) : ofLines x n [] = [] := rfl

theorem ofLines_cons (x : Lexer) (n : Nat) (l : Bytes) (ls : List Bytes) :
    ofLines x n (l :: ls) =
      ofHead n l ++ (x.line l).2.map (fun b => .brace b (n + 1)) ++
        ofLines (x.line l).1 (n + 1) ls := by
  have lower : merge ((Signature.listed (n + 1) ls).map ofSignature)
      ((x.braces n (l :: ls)).map ofBrace) =
        (x.line l).2.map (fun b => .brace b (n + 1)) ++ ofLines (x.line l).1 (n + 1) ls := by
    rw [Lexer.braces, List.map_append, List.map_map, merge_lower]
    · rfl
    · intro f hf e he
      obtain ⟨b, _, rfl⟩ := List.mem_map.mp hf
      obtain ⟨s, hs, rfl⟩ := List.mem_map.mp he
      exact (Signature.listed_lines hs).1
  cases h : Signature.ofLine l with
  | none => simpa only [ofLines, ofHead, Signature.listed, h, List.nil_append] using lower
  | some sig =>
    have first := merge_first (.signature sig.name (n + 1))
      ((Signature.listed (n + 1) ls).map ofSignature) ((x.braces n (l :: ls)).map ofBrace)
      (by
        intro f hf
        obtain ⟨b, hb, rfl⟩ := List.mem_map.mp hf
        exact Lexer.braces_later hb)
    rw [lower] at first
    simpa only [ofLines, ofHead, Signature.listed, h, List.map_cons, ofSignature,
      List.nil_append, List.cons_append] using first

/-- Events come in the order of their lines, and each line has at most one signature,
which is its first event. -/
theorem ofLines_ordered (x : Lexer) (n : Nat) (ls : List Bytes) :
    (ofLines x n ls).Pairwise fun e f =>
      e.line ≤ f.line ∧ ∀ name line, f = .signature name line → e.line < line := by
  induction ls generalizing x n with
  | nil => simp
  | cons l ls ih =>
    rw [ofLines_cons]
    have early : ∀ e ∈ ofHead n l ++ (x.line l).2.map (fun b => .brace b (n + 1)),
        e.line = n + 1 := by
      intro e he
      rcases List.mem_append.mp he with he | he
      · unfold ofHead at he
        split at he
        · cases List.mem_singleton.mp he
          rfl
        · cases he
      · obtain ⟨b, _, rfl⟩ := List.mem_map.mp he
        rfl
    have braces : ((x.line l).2.map fun b => Event.brace b (n + 1)).Pairwise fun e f =>
        e.line ≤ f.line ∧ ∀ name line, f = .signature name line → e.line < line :=
      List.pairwise_map.mpr (List.pairwise_of_forall fun _ _ => ⟨Nat.le_refl _, by simp⟩)
    have head : (ofHead n l ++ (x.line l).2.map fun b => Event.brace b (n + 1)).Pairwise
        fun e f => e.line ≤ f.line ∧ ∀ name line, f = .signature name line → e.line < line := by
      unfold ofHead
      split
      · refine List.pairwise_cons.mpr ⟨?_, braces⟩
        intro f hf
        obtain ⟨b, _, rfl⟩ := List.mem_map.mp hf
        exact ⟨Nat.le_refl _, by simp⟩
      · exact braces
    refine List.pairwise_append.mpr ⟨head, ih _ _, ?_⟩
    intro e he f hf
    have later := ofLines_later hf
    rw [early e he]
    refine ⟨Nat.le_of_lt later, ?_⟩
    rintro name line rfl
    exact later

section Order

variable {x : Lexer} {n : Nat} {ls : List Bytes} {i j : Nat} {e : Event}

theorem line_lt {name : Bytes} {line : Nat} (lt : i < j) (here : (ofLines x n ls)[i]? = some e)
    (there : (ofLines x n ls)[j]? = some (.signature name line)) : e.line < line := by
  obtain ⟨bound, rfl⟩ := List.getElem?_eq_some_iff.mp here
  obtain ⟨bound', signature⟩ := List.getElem?_eq_some_iff.mp there
  have ordered := List.pairwise_iff_getElem.mp (ofLines_ordered x n ls)
  exact (ordered i j bound bound' lt).2 name line signature

theorem line_le {f : Event} (le : i ≤ j) (here : (ofLines x n ls)[i]? = some e)
    (there : (ofLines x n ls)[j]? = some f) : e.line ≤ f.line := by
  rcases Nat.eq_or_lt_of_le le with same | lt
  · subst same
    cases Option.some.inj (here.symm.trans there)
    exact Nat.le_refl _
  · obtain ⟨bound, rfl⟩ := List.getElem?_eq_some_iff.mp here
    obtain ⟨bound', rfl⟩ := List.getElem?_eq_some_iff.mp there
    have ordered := List.pairwise_iff_getElem.mp (ofLines_ordered x n ls)
    exact (ordered i j bound bound' lt).1

end Order

end Event

theorem Scan.opened_eq_run (s : Scan) (l : Bytes) :
    s.opened l = s.resolver.run (Event.ofHead s.line l) := by
  cases h : Signature.ofLine l with
  | none => simp [Scan.opened, Event.ofHead, h]
  | some sig => simp [Scan.opened, Event.ofHead, h, Resolver.event]

theorem Scan.lines_eq_run (s : Scan) (ls : List Bytes) :
    s.lines ls = ⟨s.line + ls.length, s.lexer.lines ls,
      s.resolver.run (Event.ofLines s.lexer s.line ls)⟩ := by
  induction ls generalizing s with
  | nil => simp [Scan.lines, Lexer.lines]
  | cons l ls ih =>
    have step : s.lines (l :: ls) = (s.next l).lines ls := rfl
    rw [step, ih, Event.ofLines_cons]
    simp only [Scan.next, Scan.opened_eq_run, Resolver.run_append, Resolver.run_braces,
      Lexer.lines, List.foldl_cons, List.length_cons, Scan.mk.injEq, and_true]
    omega

theorem Span.extract_eq_run (text : Bytes) :
    Span.extract text = (({} : Resolver).run (Event.ofText text)).closed.reverse := by
  rw [Span.extract, Scan.lines_eq_run]
  rfl

end SpanGauge
