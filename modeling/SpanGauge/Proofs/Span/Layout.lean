import SpanGauge.Proofs.Span.Compose

/-! The layout of lines. White space in front of a line and a carriage return behind it
change neither its signature nor the way any lexer reads it, so two texts that differ in
nothing else have the same spans. -/
namespace SpanGauge

namespace Signature

open Pattern

def Opens (p : Pattern UInt8) : Prop := ∀ w, p.Derives w → ∃ b t, w = b :: t ∧ isGap b = false

/-- No word of the pattern starts with white space, but it may be empty. -/
def Flush (p : Pattern UInt8) : Prop := ∀ w, p.Derives w → Stops isGap w

section Flush

variable {p q : Pattern UInt8}

theorem Opens.seq (opens : Opens p) (q : Pattern UInt8) : Opens (.seq p q) := by
  intro w h
  obtain ⟨u, v, rfl, hu, _⟩ := derives_seq.mp h
  obtain ⟨b, t, rfl, visible⟩ := opens u hu
  exact ⟨b, t ++ v, rfl, visible⟩

theorem opens_keyword {s : String} {b : UInt8} (head : (Bytes.of s).head? = some b)
    (visible : isGap b = false) : Opens (keyword s) := by
  intro w h
  cases derives_word.mp h
  obtain ⟨t, split⟩ := List.head?_eq_some_iff.mp head
  exact ⟨b, t, split, visible⟩

theorem opens_keywords {ks : List String}
    (all : ∀ s ∈ ks, ∃ b, (Bytes.of s).head? = some b ∧ isGap b = false) :
    Opens (choice (ks.map keyword)) := by
  intro w h
  obtain ⟨p, member, h⟩ := derives_choice.mp h
  obtain ⟨s, hs, rfl⟩ := List.mem_map.mp member
  obtain ⟨b, head, visible⟩ := all s hs
  exact opens_keyword head visible w h

theorem Opens.flush (opens : Opens p) : Flush p := by
  intro w h
  obtain ⟨b, t, rfl, visible⟩ := opens w h
  exact .cons visible t

theorem Flush.seq (hp : Flush p) (hq : Flush q) : Flush (.seq p q) := by
  intro w h
  obtain ⟨u, v, rfl, hu, hv⟩ := derives_seq.mp h
  exact (hp u hu).append (hq v hv)

theorem Flush.optional (hp : Flush p) : Flush (optional p) := by
  intro w h
  rcases derives_optional.mp h with h | rfl
  · exact hp w h
  · simp [Stops]

theorem Flush.rep (hp : Flush p) : Flush (.rep p) := by
  intro w h
  refine h.rep_induction (by simp [Stops]) ?_
  intro u v hu hv
  exact (hp u hu).append hv

end Flush

def Form.Indented (f : Form) : Prop :=
  ∃ q, (∀ u, f.lead.Derives u ↔ (Pattern.seq gaps q).Derives u) ∧ Flush q

theorem forms_indented : ∀ f ∈ forms, f.Indented := by
  have letter : isGap (byte 'e') = false ∧ isGap (byte 'a') = false ∧ isGap (byte 'd') = false ∧
      isGap (byte 'f') = false := by decide
  have exported : Opens (spaced "export") :=
    (opens_keyword (b := byte 'e') (by decide +kernel) letter.1).seq _
  have awaited : Flush (optional (spaced "async")) :=
    ((opens_keyword (b := byte 'a') (by decide +kernel) letter.2.1).seq _).flush.optional
  have function : Opens (keyword "function") :=
    opens_keyword (b := byte 'f') (by decide +kernel) letter.2.2.2
  have binders : Opens (choice (["const", "let", "var"].map keyword)) := by
    apply opens_keywords
    simp only [List.mem_cons, List.not_mem_nil, or_false, forall_eq_or_imp, forall_eq]
    exact ⟨⟨byte 'c', by decide +kernel⟩, ⟨byte 'l', by decide +kernel⟩,
      ⟨byte 'v', by decide +kernel⟩⟩
  have modifying : Opens (choice (modifiers.map keyword)) := by
    apply opens_keywords
    simp only [modifiers, List.mem_cons, List.not_mem_nil, or_false, forall_eq_or_imp, forall_eq]
    exact ⟨⟨byte 's', by decide +kernel⟩, ⟨byte 'g', by decide +kernel⟩,
      ⟨byte 's', by decide +kernel⟩, ⟨byte 'p', by decide +kernel⟩,
      ⟨byte 'p', by decide +kernel⟩, ⟨byte 'p', by decide +kernel⟩, ⟨byte 'a', by decide +kernel⟩⟩
  intro f member
  simp only [forms, List.mem_cons, List.not_mem_nil, or_false] at member
  rcases member with rfl | rfl | rfl | rfl
  · exact ⟨_, fun _ => Iff.rfl,
      (exported.seq _).flush.optional.seq (awaited.seq (function.seq _).flush)⟩
  · exact ⟨_, fun _ => Iff.rfl, exported.flush.optional.seq (binders.seq _).flush.optional⟩
  · exact ⟨_, fun _ => Iff.rfl, ((modifying.seq _).flush).rep⟩
  · refine ⟨.empty, fun u => ?_, fun w h => by simp [derives_empty.mp h, Stops]⟩
    simp [derives_seq, objectMethodLead]

/-- White space cannot begin before a flush text and end inside it. -/
theorem gaps_before_flush {g u k w : Bytes} (split : g ++ u = k ++ w)
    (gaps : ∀ b ∈ g, isGap b = true) (flush : Stops isGap w) : ∃ k', k = g ++ k' ∧ u = k' ++ w := by
  rcases List.append_eq_append_iff.mp split with ⟨k', rfl, rfl⟩ | ⟨c, rfl, rfl⟩
  · exact ⟨k', rfl, rfl⟩
  · cases c with
    | nil => exact ⟨[], by simp, by simp⟩
    | cons b c =>
      have visible := flush b rfl
      rw [gaps b (by simp)] at visible
      cases visible

theorem Form.fits_indent {f : Form} (indented : f.Indented) {g : Bytes}
    (gaps : ∀ b ∈ g, isGap b = true) {line nm : Bytes} : f.Fits (g ++ line) nm ↔ f.Fits line nm := by
  obtain ⟨q, lead, flush⟩ := indented
  constructor
  · rintro ⟨u, v, rest, split, hu, name, hv⟩
    obtain ⟨k, w, rfl, hk, hw⟩ := derives_seq.mp ((lead u).mp hu)
    have stop : Stops isGap (w ++ (nm ++ (v ++ rest))) :=
      (flush w hw).append (name.stops (fun b start => gap_of_namePart (namePart_of_nameStart start)) _)
    simp only [List.append_assoc] at split
    obtain ⟨k', rfl, rfl⟩ := gaps_before_flush split gaps stop
    have shorter : (Pattern.seq Signature.gaps q).Derives (k' ++ w) :=
      .seq (derives_many.mpr fun b member => derives_many.mp hk b (by simp [member])) hw
    exact ⟨k' ++ w, v, rest, by simp, (lead _).mpr shorter, name, hv⟩
  · rintro ⟨u, v, rest, rfl, hu, name, hv⟩
    obtain ⟨k, w, rfl, hk, hw⟩ := derives_seq.mp ((lead u).mp hu)
    have longer : (Pattern.seq Signature.gaps q).Derives (g ++ k ++ w) := by
      refine .seq (derives_many.mpr fun b member => ?_) hw
      exact (List.mem_append.mp member).elim (gaps b) (derives_many.mp hk b)
    exact ⟨g ++ k ++ w, v, rest, by simp, (lead _).mpr longer, name, hv⟩

theorem ofLine_indent {g : Bytes} (gaps : ∀ b ∈ g, isGap b = true) (line : Bytes) :
    ofLine (g ++ line) = ofLine line :=
  ofLine_congr fun f member _ => Form.fits_indent (forms_indented f member) gaps

end Signature

namespace Lexer

theorem step_blank {x : Lexer} (clear : x.skip = false) {b : UInt8}
    (blank : b = byte ' ' ∨ b = byte '\t') (before after : Option UInt8) :
    x.step before b after = (x, none) := by
  obtain ⟨mode, skip⟩ := x
  cases clear
  rcases blank with rfl | rfl
  · cases mode <;> rfl
  · cases mode <;> rfl

/-- Of the byte before, a step only sees whether it is a backslash. -/
theorem step_before (x : Lexer) {before : Option UInt8} (plain : before ≠ some backslash)
    (b : UInt8) (after : Option UInt8) : x.step before b after = x.step none b after := by
  have unescaped : (before == some backslash) = false := beq_eq_false_iff_ne.mpr plain
  simp only [step, unescaped]
  rfl

theorem ahead_before (x : Lexer) {before : Option UInt8} (plain : before ≠ some backslash)
    (l : Bytes) : x.ahead before l = x.ahead none l := by
  cases l with
  | nil => rfl
  | cons b rest => rw [ahead_cons, ahead_cons, step_before x plain]

theorem ahead_indent {x : Lexer} (clear : x.skip = false) {g : Bytes}
    (blank : ∀ b ∈ g, b = byte ' ' ∨ b = byte '\t') {before : Option UInt8}
    (plain : before ≠ some backslash) (l : Bytes) : x.ahead before (g ++ l) = x.ahead none l := by
  induction g generalizing before with
  | nil => exact ahead_before x plain l
  | cons b g ih =>
    have first := blank b (by simp)
    have visible : (some b : Option UInt8) ≠ some backslash := by
      rcases first with rfl | rfl
      · decide
      · decide
    have rest := ih (fun c member => blank c (by simp [member])) visible
    rw [List.cons_append, ahead_cons, step_blank clear first, rest]
    rfl

theorem line_indent {x : Lexer} (clear : x.skip = false) {g : Bytes}
    (blank : ∀ b ∈ g, b = byte ' ' ∨ b = byte '\t') (l : Bytes) : x.line (g ++ l) = x.line l := by
  have start : x.atLineStart.skip = false := by rw [atLineStart_skip, clear]
  exact ahead_indent start blank (by simp) l

end Lexer

structure Alike (l m : Bytes) : Prop where
  signature : Signature.ofLine l = Signature.ofLine m
  braces : ∀ x : Lexer, x.skip = false → x.line l = x.line m

namespace Alike

variable {l m k : Bytes}

theorem symm (h : Alike l m) : Alike m l :=
  ⟨h.signature.symm, fun x clear => (h.braces x clear).symm⟩

theorem trans (h : Alike l m) (h' : Alike m k) : Alike l k :=
  ⟨h.signature.trans h'.signature, fun x clear => (h.braces x clear).trans (h'.braces x clear)⟩

theorem trimmed (l : Bytes) : Alike (Bytes.dropTrail l [Text.carriage]) l :=
  ⟨Signature.ofLine_dropTrail l, fun _ clear => Lexer.line_dropTrail clear l⟩

theorem carriage (l : Bytes) : Alike (l ++ [Text.carriage]) l := by
  have dropped : Bytes.dropTrail (l ++ [Text.carriage]) [Text.carriage] = l := by
    simp [Bytes.dropTrail]
  have same := trimmed (l ++ [Text.carriage])
  rw [dropped] at same
  exact same.symm

theorem indented {g : Bytes} (blank : ∀ b ∈ g, b = byte ' ' ∨ b = byte '\t') (l : Bytes) :
    Alike (g ++ l) l := by
  have gaps : ∀ b ∈ g, Signature.isGap b = true := by
    intro b member
    rcases blank b member with rfl | rfl
    · decide
    · decide
  exact ⟨Signature.ofLine_indent gaps l, fun _ clear => Lexer.line_indent clear blank l⟩

end Alike

theorem Event.ofLines_alike {α : Type} {f g : α → Bytes} (alike : ∀ a, Alike (f a) (g a))
    (as : List α) {x : Lexer} (clear : x.skip = false) (n : Nat) :
    ofLines x n (as.map f) = ofLines x n (as.map g) := by
  induction as generalizing x n with
  | nil => rfl
  | cons a as ih =>
    rw [List.map_cons, List.map_cons, ofLines_cons, ofLines_cons, (alike a).braces x clear,
      ih (Lexer.line_clear clear _)]
    simp only [ofHead, (alike a).signature]

theorem Text.pieces_join {ls : List Bytes} (some : ls ≠ []) (lines : ∀ l ∈ ls, Text.feed ∉ l) :
    Text.pieces (Bytes.join [Text.feed] ls) =
      ls.map fun l => Bytes.dropTrail l [Text.carriage] := by
  have cut : (Bytes.join [Text.feed] ls).splitOn Text.feed = ls :=
    List.splitOn_intercalate _ lines some
  rw [Text.pieces, cut]

/-- How a line is laid out: white space to put in front of it, and whether a carriage
return is put behind it. -/
structure Layout where
  indent : Bytes
  blank : ∀ b ∈ indent, b = byte ' ' ∨ b = byte '\t'
  carriage : Bool

def Layout.apply (y : Layout) (l : Bytes) : Bytes :=
  y.indent ++ l ++ if y.carriage then [Text.carriage] else []

theorem Layout.alike (y : Layout) (l : Bytes) : Alike (y.apply l) l := by
  have front := Alike.indented y.blank l
  unfold Layout.apply
  split
  · exact (Alike.carriage _).trans front
  · rw [List.append_nil]
    exact front

theorem Layout.one_line (y : Layout) {l : Bytes} (line : Text.feed ∉ l) :
    Text.feed ∉ y.apply l := by
  have front : Text.feed ∉ y.indent := by
    intro member
    rcases y.blank _ member with same | same
    · exact absurd same (by decide)
    · exact absurd same (by decide)
  unfold Layout.apply
  split
  · simp [front, line, show Text.feed ≠ Text.carriage by decide]
  · simp [front, line]

/-- Spaces and tabs in front of lines and carriage returns behind them, chosen line by
line, leave the spans of a text as they are. -/
theorem extract_layout (ls : List (Bytes × Layout)) (lines : ∀ p ∈ ls, Text.feed ∉ p.1) :
    Span.extract (Bytes.join [Text.feed] (ls.map fun p => p.2.apply p.1)) =
      Span.extract (Bytes.join [Text.feed] (ls.map fun p => p.1)) := by
  cases ls with
  | nil => rfl
  | cons p ls =>
    have laid : ∀ l ∈ (p :: ls).map fun p => p.2.apply p.1, Text.feed ∉ l := by
      intro l member
      obtain ⟨q, hq, rfl⟩ := List.mem_map.mp member
      exact q.2.one_line (lines q hq)
    have bare : ∀ l ∈ (p :: ls).map fun p => p.1, Text.feed ∉ l := by
      intro l member
      obtain ⟨q, hq, rfl⟩ := List.mem_map.mp member
      exact lines q hq
    -- a line is trimmed before it is read, and this too makes no difference
    have alike : ∀ q : Bytes × Layout, Alike (Bytes.dropTrail (q.2.apply q.1) [Text.carriage])
        (Bytes.dropTrail q.1 [Text.carriage]) := fun q =>
      ((Alike.trimmed _).trans (q.2.alike q.1)).trans (Alike.trimmed _).symm
    have same := Event.ofLines_alike alike (p :: ls) (x := {}) rfl 0
    rw [Span.extract_eq_run, Span.extract_eq_run, Event.ofText_eq_pieces, Event.ofText_eq_pieces,
      Text.pieces_join (by simp) laid, Text.pieces_join (by simp) bare, List.map_map, List.map_map]
    exact congrArg (fun es => (({} : Resolver).run es).closed.reverse) same

/-- A block comment over three lines, one of which ends in a carriage return already. -/
def crossedLines : List (Bytes × Layout) :=
  [(Bytes.of "const f = (x) => \x7b /* \x7b", ⟨Bytes.of "\t ", by decide +kernel, true⟩),
   (Bytes.of "* \\\r", ⟨[], by simp, true⟩),
   (Bytes.of "/ */ g() \x7b", ⟨Bytes.of "  ", by decide +kernel, false⟩),
   (Bytes.of "\x7d \x7d\r", ⟨Bytes.of "\t", by decide +kernel, true⟩)]

theorem crossedLines_extracted :
    Bytes.join [Text.feed] (crossedLines.map fun p => p.2.apply p.1) =
      Bytes.of "\t const f = (x) => \x7b /* \x7b\r\n* \\\r\r\n  / */ g() \x7b\n\t\x7d \x7d\r\r" ∧
    Span.extract (Bytes.join [Text.feed] (crossedLines.map fun p => p.2.apply p.1)) =
      [Span.ofLines (Bytes.of "f") 1 4] := by
  refine ⟨by decide +kernel, ?_⟩
  rw [extract_layout crossedLines (by decide +kernel)]
  decide +kernel

end SpanGauge
