import SpanGauge.Proofs.Signature.Word
import SpanGauge.Proofs.Text.Lines

/-! The line forms are unambiguous: however a line is divided into lead, name and tail,
the name is the same. So the reader gives exactly the name under which the line has the
form, and the signature of a line is that of the first form it has. -/
namespace SpanGauge.Signature

open Pattern

theorem derives_gap {w : Bytes} (h : gap.Derives w) : w ≠ [] ∧ ∀ b ∈ w, isGap b = true := by
  obtain ⟨u, v, rfl, hu, hv⟩ := derives_seq.mp h
  obtain ⟨a, passes, rfl⟩ := derives_one.mp hu
  exact ⟨by simp, by simpa [passes] using derives_many.mp hv⟩

section Leads

theorem spaced_gaps {w : Bytes} (h : gaps.Derives w) : Spaced w := .ofGaps (derives_many.mp h)

theorem spaced_word {p : Pattern UInt8} (parts : p.Over (isNamePart · = true)) {w : Bytes}
    (h : (Pattern.seq p gap).Derives w) : Spaced w := by
  obtain ⟨u, v, rfl, hu, hv⟩ := derives_seq.mp h
  obtain ⟨some, gaps⟩ := derives_gap hv
  exact .ofWord (parts u hu) some gaps

theorem spaced_optional {p : Pattern UInt8} (spaced : ∀ w, p.Derives w → Spaced w) {w : Bytes}
    (h : (optional p).Derives w) : Spaced w := by
  rcases derives_optional.mp h with h | rfl
  · exact spaced w h
  · exact .ofGaps (by simp)

theorem over_keywords (ks : List String)
    (parts : ∀ s ∈ ks, ∀ b ∈ Bytes.of s, isNamePart b = true) :
    (choice (ks.map keyword)).Over (isNamePart · = true) := by
  apply Over.choice
  intro p member
  obtain ⟨s, hs, rfl⟩ := List.mem_map.mp member
  exact .word (parts s hs)

theorem arrowLead_spaced {u : Bytes} (h : arrowLead.Derives u) : Spaced u := by
  obtain ⟨u₁, _, rfl, h₁, h⟩ := derives_seq.mp h
  obtain ⟨u₂, u₃, rfl, h₂, h₃⟩ := derives_seq.mp h
  have binders := over_keywords ["const", "let", "var"] (by decide +kernel)
  have exported : Spaced u₂ :=
    spaced_optional (fun w => spaced_word (.word (by decide +kernel))) h₂
  have declared : Spaced u₃ := spaced_optional (fun w => spaced_word binders) h₃
  exact (spaced_gaps h₁).append (exported.append declared)

theorem methodLead_spaced {u : Bytes} (h : methodLead.Derives u) : Spaced u := by
  obtain ⟨u₁, u₂, rfl, h₁, h₂⟩ := derives_seq.mp h
  refine (spaced_gaps h₁).append (h₂.rep_induction (.ofGaps (by simp)) ?_)
  intro w v hw hv
  exact (spaced_word (over_keywords modifiers (by decide +kernel)) hw).append hv

theorem declarationLead_words {u : Bytes} (h : declarationLead.Derives u) :
    ∃ k m, u = k ++ Bytes.of "function" ++ m ∧ (∀ b ∈ k, (b != byte 'i') = true) ∧
      ∀ b ∈ m, (isGap b || b == byte '*') = true := by
  obtain ⟨u₁, _, rfl, h₁, h⟩ := derives_seq.mp h
  obtain ⟨u₂, _, rfl, h₂, h⟩ := derives_seq.mp h
  obtain ⟨u₃, _, rfl, h₃, h⟩ := derives_seq.mp h
  obtain ⟨f, m, rfl, hf, hm⟩ := derives_seq.mp h
  cases derives_word.mp hf
  have gap_ne : ∀ b : UInt8, isGap b = true → (b != byte 'i') = true := by
    intro b gap
    cases part : b != byte 'i' with
    | true => rfl
    | false =>
      cases (bne_eq_false_iff_eq.mp part)
      cases gap
  have word_ne : ∀ s : String, (∀ b ∈ Bytes.of s, (b != byte 'i') = true) →
      (spaced s).Over fun b => (b != byte 'i') = true :=
    fun s all => .seq (.word all) (.seq (.one gap_ne) (.many gap_ne))
  have exported := Over.optional (.seq (word_ne "export" (by decide +kernel))
    (.optional (word_ne "default" (by decide +kernel)))) u₂ h₂
  have awaited := Over.optional (word_ne "async" (by decide +kernel)) u₃ h₃
  have starred : (concat [gaps, optional (symbol '*'), gaps]).Over
      fun b => (isGap b || b == byte '*') = true :=
    .seq (.many (by simp_all)) (.seq (.optional (.one (by simp_all))) (.many (by simp_all)))
  refine ⟨u₁ ++ u₂ ++ u₃, m, by simp, ?_, starred m hm⟩
  intro b member
  rcases List.mem_append.mp member with member | member
  · rcases List.mem_append.mp member with member | member
    · exact gap_ne b (derives_many.mp h₁ b member)
    · exact exported b member
  · exact awaited b member

end Leads

/-- What makes a form readable: its tail starts with punctuation and ends in another byte
than a carriage return, and no line has the form under two names. -/
structure Form.Readable (f : Form) : Prop where
  tail_starts : ∀ v, f.tail.Derives v → Punctuated v
  tail_ends : ∀ v, f.tail.Derives v → ∃ t c, v = t ++ [c] ∧ c ≠ Text.carriage
  unique : ∀ line nm nm', f.Fits line nm → f.Fits line nm' → nm = nm'

section Tails

theorem punctuated_tail {q : Pattern UInt8} {c : UInt8} (starts : q.StartsWith c)
    (none : (isGap c || isNamePart c) = false) {v : Bytes}
    (h : (Pattern.seq gaps q).Derives v) : Punctuated v := by
  obtain ⟨g, w, rfl, hg, hw⟩ := derives_seq.mp h
  obtain ⟨t, rfl⟩ := starts w hw
  exact ⟨g, c, t, rfl, derives_many.mp hg, none⟩

theorem symbol_starts (c : Char) : (symbol c).StartsWith (byte c) := by
  intro w h
  obtain ⟨a, passes, rfl⟩ := derives_one.mp h
  exact ⟨[], by rw [beq_iff_eq.mp passes]⟩

theorem symbol_ends (c : Char) : (symbol c).EndsWith (byte c) := by
  intro w h
  obtain ⟨a, passes, rfl⟩ := derives_one.mp h
  exact ⟨[], by rw [beq_iff_eq.mp passes]; rfl⟩

theorem last_of_endsWith {q : Pattern UInt8} {c d : UInt8} (ends : q.EndsWith c) (ne : c ≠ d)
    {v : Bytes} (h : q.Derives v) : ∃ t e, v = t ++ [e] ∧ e ≠ d := by
  obtain ⟨t, rfl⟩ := ends v h
  exact ⟨t, c, rfl, ne⟩

end Tails

theorem unique_of_spaced {f : Form} (lead : ∀ u, f.lead.Derives u → Spaced u)
    (tail : ∀ v, f.tail.Derives v → Punctuated v) (line nm nm' : Bytes)
    (h : f.Fits line nm) (h' : f.Fits line nm') : nm = nm' := by
  obtain ⟨u, v, rest, rfl, hu, name, hv⟩ := h
  obtain ⟨u', v', rest', same, hu', name', hv'⟩ := h'
  simp only [List.append_assoc] at same
  simp only [← List.append_assoc u, ← List.append_assoc u'] at same
  exact (cut_unique same (lead u hu) name ((tail v hv).append rest) (lead u' hu') name'
    ((tail v' hv').append rest')).2

/-- If the letter `i` of a keyword is the first on the line, the keyword stands in one
place only. -/
theorem after_function {k s k' s' : Bytes}
    (same : k ++ Bytes.of "function" ++ s = k' ++ Bytes.of "function" ++ s')
    (hk : ∀ b ∈ k, (b != byte 'i') = true) (hk' : ∀ b ∈ k', (b != byte 'i') = true) :
    s = s' := by
  have keyword : Bytes.of "function" = Bytes.of "funct" ++ byte 'i' :: Bytes.of "on" := by
    decide +kernel
  have before : ∀ b ∈ Bytes.of "funct", (b != byte 'i') = true := by decide +kernel
  have passes : ∀ {k : Bytes}, (∀ b ∈ k, (b != byte 'i') = true) →
      ∀ b ∈ k ++ Bytes.of "funct", (b != byte 'i') = true := by
    intro k hk b member
    exact (List.mem_append.mp member).elim (hk b) (before b)
  have stop : ∀ s : Bytes, Stops (· != byte 'i') (byte 'i' :: s) := .cons (bne_self_eq_false _)
  rw [keyword] at same
  simp only [List.append_assoc, List.cons_append] at same
  simp only [← List.append_assoc k, ← List.append_assoc k'] at same
  have after := (run_unique same (passes hk) (stop _) (passes hk') (stop _)).2
  exact List.append_cancel_left (List.cons.inj after).2

theorem unique_of_function {f : Form}
    (lead : ∀ u, f.lead.Derives u → ∃ k m, u = k ++ Bytes.of "function" ++ m ∧
      (∀ b ∈ k, (b != byte 'i') = true) ∧ ∀ b ∈ m, (isGap b || b == byte '*') = true)
    (tail : ∀ v, f.tail.Derives v → Punctuated v) (line nm nm' : Bytes)
    (h : f.Fits line nm) (h' : f.Fits line nm') : nm = nm' := by
  obtain ⟨u, v, rest, rfl, hu, name, hv⟩ := h
  obtain ⟨u', v', rest', same, hu', name', hv'⟩ := h'
  obtain ⟨k, m, rfl, hk, hm⟩ := lead u hu
  obtain ⟨k', m', rfl, hk', hm'⟩ := lead u' hu'
  -- what is left of the lead is white space and at most one star, which no name starts with
  have apart : ∀ b, isNameStart b = true → (isGap b || b == byte '*') = false := by
    intro b start
    have star : (b == byte '*') = false := by
      rw [beq_eq_false_iff_ne]
      rintro rfl
      cases start
    rw [star, gap_of_namePart (namePart_of_nameStart start)]
    rfl
  have named : m ++ (nm ++ (v ++ rest)) = m' ++ (nm' ++ (v' ++ rest')) :=
    after_function (by simpa only [List.append_assoc] using same) hk hk'
  have ends := (run_unique named hm (name.stops apart _) hm' (name'.stops apart _)).2
  exact (run_unique ends name.parts ((tail v hv).stops rest) name'.parts
    ((tail v' hv').stops rest')).1

theorem forms_readable : ∀ f ∈ forms, f.Readable := by
  have declaration : ∀ v, declarationTail.Derives v → Punctuated v :=
    fun _ => punctuated_tail (symbol_starts '(') (by decide)
  have arrow : ∀ v, arrowTail.Derives v → Punctuated v :=
    fun _ => punctuated_tail ((symbol_starts '=').seq _) (by decide)
  have method : ∀ v, methodTail.Derives v → Punctuated v :=
    fun _ => punctuated_tail (((symbol_starts '(').seq _).seq _) (by decide)
  have objectMethod : ∀ v, objectMethodTail.Derives v → Punctuated v :=
    fun _ => punctuated_tail ((symbol_starts ':').seq _) (by decide)
  intro f member
  simp only [forms, List.mem_cons, List.not_mem_nil, or_false] at member
  rcases member with rfl | rfl | rfl | rfl
  · refine ⟨declaration, fun v => ?_,
      unique_of_function (fun _ => declarationLead_words) declaration⟩
    exact last_of_endsWith (.concat [_] (symbol_ends '(')) (by decide)
  · refine ⟨arrow, fun v => ?_, unique_of_spaced (fun _ => arrowLead_spaced) arrow⟩
    exact last_of_endsWith (.concat [_, _, _, _, _, _, _, _] (symbol_ends '{')) (by decide)
  · refine ⟨method, fun v => ?_, unique_of_spaced (fun _ => methodLead_spaced) method⟩
    exact last_of_endsWith (.concat [_, _, _, _] (symbol_ends '{')) (by decide)
  · refine ⟨objectMethod, fun v => ?_, unique_of_spaced (fun _ => spaced_gaps) objectMethod⟩
    exact last_of_endsWith (.concat [_, _, _, _, _] (symbol_ends '(')) (by decide)

namespace Form

theorem nameAt_sound {f : Form} {s nm : Bytes} (found : f.nameAt s = some nm) :
    ∃ v rest, s = nm ++ v ++ rest ∧ IsName nm ∧ f.tail.Derives v := by
  cases s with
  | nil => cases found
  | cons b s =>
    rw [nameAt] at found
    split at found
    · rename_i start
      split at found
      · rename_i begins
        cases Option.some.inj found
        obtain ⟨v, rest, split, derives⟩ := begins_iff.mp begins
        refine ⟨v, rest, ?_, ⟨start, ?_⟩, derives⟩
        · simp only [List.cons_append, List.append_assoc, ← split,
            List.takeWhile_append_dropWhile]
        · intro c member
          exact List.all_eq_true.mp List.all_takeWhile c member
      · cases found
    · cases found

theorem nameAt_complete {f : Form} (readable : f.Readable) {nm v : Bytes} (name : IsName nm)
    (derives : f.tail.Derives v) (rest : Bytes) : f.nameAt (nm ++ (v ++ rest)) = some nm := by
  cases nm with
  | nil => exact absurd rfl name.ne_nil
  | cons b nm =>
    have stops := (readable.tail_starts v derives).stops rest
    have begins : f.tail.begins (v ++ rest) = true := begins_iff.mpr ⟨v, rest, rfl, derives⟩
    rw [List.cons_append, nameAt, if_pos name.1, dropWhile_run name.2 stops, if_pos begins,
      takeWhile_run name.2 stops]

theorem name?_eq_some_iff {f : Form} (readable : f.Readable) {line nm : Bytes} :
    f.name? line = some nm ↔ f.Fits line nm := by
  have sound : ∀ {nm}, f.name? line = some nm → f.Fits line nm := by
    intro nm found
    obtain ⟨u, s, rfl, hu, last⟩ := run_sound found
    obtain ⟨v, rest, rfl, name, hv⟩ := nameAt_sound last
    exact ⟨u, v, rest, by simp, hu, name, hv⟩
  constructor
  · exact sound
  · intro fits
    obtain ⟨u, v, rest, split, hu, name, hv⟩ := id fits
    have last : (f.nameAt (nm ++ (v ++ rest))).isSome := by
      rw [nameAt_complete readable name hv]
      rfl
    obtain ⟨other, found⟩ := Option.isSome_iff_exists.mp (run_complete hu last)
    have same : f.name? line = some other := by
      rw [← found, split, List.append_assoc, List.append_assoc]
      rfl
    rw [same, readable.unique line other nm (sound same) fits]

theorem read_eq_some_iff {f : Form} (readable : f.Readable) {line : Bytes} {sig : Signature} :
    f.read line = some sig ↔
      f.kind = sig.kind ∧ f.Fits line sig.name ∧ sig.name ∉ f.refused := by
  rw [← name?_eq_some_iff readable, read]
  obtain ⟨kind, name⟩ := sig
  cases h : f.name? line with
  | none => simp
  | some nm =>
    by_cases refused : nm ∈ f.refused
    · simp only [refused, if_true, reduceCtorEq, Option.some.injEq, false_iff, not_and]
      rintro _ rfl
      exact not_not_intro refused
    · simp only [refused, if_false, Option.some.injEq, Signature.mk.injEq]
      constructor
      · rintro ⟨rfl, rfl⟩
        exact ⟨rfl, rfl, refused⟩
      · rintro ⟨rfl, rfl, _⟩
        exact ⟨rfl, rfl⟩

theorem read_eq_none_iff {f : Form} (readable : f.Readable) {line : Bytes} :
    f.read line = none ↔ ∀ nm, f.Fits line nm → nm ∈ f.refused := by
  constructor
  · intro missed nm fits
    by_cases refused : nm ∈ f.refused
    · exact refused
    · have found : f.read line = some ⟨f.kind, nm⟩ :=
        (read_eq_some_iff readable).mpr ⟨rfl, fits, refused⟩
      rw [missed] at found
      cases found
  · intro all
    cases h : f.read line with
    | none => rfl
    | some sig =>
      obtain ⟨_, fits, accepted⟩ := (read_eq_some_iff readable).mp h
      exact absurd (all _ fits) accepted

end Form

theorem ofLine_eq_some_iff {line : Bytes} {sig : Signature} :
    ofLine line = some sig ↔ ∃ earlier f later, forms = earlier ++ f :: later ∧
      f.kind = sig.kind ∧ f.Fits line sig.name ∧ sig.name ∉ f.refused ∧
      ∀ g ∈ earlier, ∀ nm, g.Fits line nm → nm ∈ g.refused := by
  rw [ofLine, List.findSome?_eq_some_iff]
  constructor
  · rintro ⟨earlier, f, later, split, found, missed⟩
    have readable : ∀ g ∈ earlier ++ f :: later, g.Readable := split ▸ forms_readable
    have here := (Form.read_eq_some_iff (readable f (by simp))).mp found
    refine ⟨earlier, f, later, split, here.1, here.2.1, here.2.2, ?_⟩
    intro g member
    exact (Form.read_eq_none_iff (readable g (by simp [member]))).mp (missed g member)
  · rintro ⟨earlier, f, later, split, kind, fits, accepted, missed⟩
    have readable : ∀ g ∈ earlier ++ f :: later, g.Readable := split ▸ forms_readable
    refine ⟨earlier, f, later, split,
      (Form.read_eq_some_iff (readable f (by simp))).mpr ⟨kind, fits, accepted⟩, ?_⟩
    intro g member
    exact (Form.read_eq_none_iff (readable g (by simp [member]))).mpr (missed g member)

theorem ofLine_eq_none_iff {line : Bytes} :
    ofLine line = none ↔ ∀ f ∈ forms, ∀ nm, f.Fits line nm → nm ∈ f.refused := by
  rw [ofLine, List.findSome?_eq_none_iff]
  constructor
  · intro missed f member
    exact (Form.read_eq_none_iff (forms_readable f member)).mp (missed f member)
  · intro missed f member
    exact (Form.read_eq_none_iff (forms_readable f member)).mpr (missed f member)

theorem ofLine_congr {line line' : Bytes}
    (same : ∀ f ∈ forms, ∀ nm, f.Fits line nm ↔ f.Fits line' nm) :
    ofLine line = ofLine line' := by
  have read : ∀ f ∈ forms, f.read line = f.read line' := by
    intro f member
    have readable := forms_readable f member
    apply Option.ext
    intro sig
    rw [Form.read_eq_some_iff readable, Form.read_eq_some_iff readable, same f member]
  have mapped := congrArg (List.findSome? id) (List.map_congr_left read)
  rw [List.findSome?_map, List.findSome?_map] at mapped
  exact mapped

theorem ofLine_carriage (line : Bytes) : ofLine (line ++ [Text.carriage]) = ofLine line := by
  apply ofLine_congr
  intro f member nm
  constructor
  · rintro ⟨u, v, rest, split, hu, name, hv⟩
    rcases List.eq_nil_or_concat rest with rfl | ⟨rest, b, rfl⟩
    · -- the tail would end with the line
      obtain ⟨t, c, rfl, ne⟩ := (forms_readable f member).tail_ends v hv
      rw [List.append_nil, ← List.append_assoc] at split
      have last := (List.append_inj' split rfl).2
      exact absurd (List.cons.inj last).1.symm ne
    · rw [List.concat_eq_append, ← List.append_assoc] at split
      exact ⟨u, v, rest, (List.append_inj' split rfl).1, hu, name, hv⟩
  · rintro ⟨u, v, rest, rfl, hu, name, hv⟩
    exact ⟨u, v, rest ++ [Text.carriage], by simp, hu, name, hv⟩

theorem ofLine_dropTrail (line : Bytes) :
    ofLine (Bytes.dropTrail line [Text.carriage]) = ofLine line := by
  rcases Bytes.dropTrail_single line Text.carriage with ⟨m, rfl, dropped⟩ | same
  · rw [dropped, ofLine_carriage]
  · rw [same]

theorem derives_identifier {w : Bytes} : identifier.Derives w ↔ IsName w := by
  rw [identifier, derives_seq]
  constructor
  · rintro ⟨u, v, rfl, hu, hv⟩
    obtain ⟨b, start, rfl⟩ := derives_one.mp hu
    exact ⟨start, derives_many.mp hv⟩
  · intro name
    cases w with
    | nil => exact absurd rfl name.ne_nil
    | cons b w => exact ⟨[b], w, rfl, derives_one.mpr ⟨b, name.1, rfl⟩, derives_many.mpr name.2⟩

def Form.pattern (f : Form) : Pattern UInt8 := .seq f.lead (.seq identifier f.tail)

theorem Form.pattern_derives {f : Form} {line : Bytes} :
    (∃ w rest, line = w ++ rest ∧ f.pattern.Derives w) ↔ ∃ nm, f.Fits line nm := by
  constructor
  · rintro ⟨w, rest, rfl, h⟩
    obtain ⟨u, _, rfl, hu, h⟩ := derives_seq.mp h
    obtain ⟨nm, v, rfl, hn, hv⟩ := derives_seq.mp h
    exact ⟨nm, u, v, rest, by simp, hu, derives_identifier.mp hn, hv⟩
  · rintro ⟨nm, u, v, rest, rfl, hu, name, hv⟩
    exact ⟨u ++ (nm ++ v), rest, by simp, .seq hu (.seq (derives_identifier.mpr name) hv)⟩

/-- A line has the signature of the first of the four forms that a beginning of it is
derivable from, methods with the name of a control word apart, and none without such a
form. All derivations of a form on a line give the same name. -/
theorem signature_of_first_form (line : Bytes) :
    forms.map (fun f => (f.kind, f.refused)) =
      [(.declaration, []), (.arrow, []), (.method, controlWords), (.objectMethod, [])] ∧
    (∀ f ∈ forms, (∃ w rest, line = w ++ rest ∧ f.pattern.Derives w) ↔ ∃ nm, f.Fits line nm) ∧
    (∀ sig, ofLine line = some sig ↔ ∃ earlier f later, forms = earlier ++ f :: later ∧
      f.kind = sig.kind ∧ f.Fits line sig.name ∧ sig.name ∉ f.refused ∧
      ∀ g ∈ earlier, ∀ nm, g.Fits line nm → nm ∈ g.refused) ∧
    (ofLine line = none ↔ ∀ f ∈ forms, ∀ nm, f.Fits line nm → nm ∈ f.refused) ∧
    (∀ f ∈ forms, ∀ nm nm', f.Fits line nm → f.Fits line nm' → nm = nm') ∧
    ∀ sig, ofLine line = some sig → IsName sig.name ∧ sig.name <:+: line := by
  refine ⟨rfl, fun f _ => Form.pattern_derives, fun sig => ofLine_eq_some_iff,
    ofLine_eq_none_iff, fun f member => (forms_readable f member).unique line, ?_⟩
  intro sig found
  obtain ⟨_, f, _, _, _, ⟨u, v, rest, split, _, name, _⟩, _⟩ := ofLine_eq_some_iff.mp found
  exact ⟨name, u, v ++ rest, by rw [split, List.append_assoc (u ++ sig.name)]⟩

def modifiersLine : Bytes := Bytes.of " static async get (a) : T \x7b"

theorem modifiersLine_name : ofLine modifiersLine = some ⟨.method, Bytes.of "get"⟩ ∧
    ∃ f ∈ forms, f.kind = .method ∧ f.Fits modifiersLine (Bytes.of "get") ∧
      ∀ nm, f.Fits modifiersLine nm → nm = Bytes.of "get" := by
  have found : ofLine modifiersLine = some ⟨.method, Bytes.of "get"⟩ := by decide +kernel
  obtain ⟨_, _, first, _, unique, _⟩ := signature_of_first_form modifiersLine
  obtain ⟨earlier, f, later, split, kind, fits, _⟩ := (first _).mp found
  have member : f ∈ forms := by simp [split]
  exact ⟨found, f, member, kind, fits, fun nm other => unique f member nm _ other fits⟩

end SpanGauge.Signature
