import Mathlib.Data.List.TakeWhile
import SpanGauge.Proofs.Span.Layout

/-! Lines that begin with a name and a parenthesis: calls and methods. Of the keywords of a
signature only `function` needs no white space behind it, so a longer name that begins with
it is read as a declaration of the rest. Every other name is left whole. -/
namespace SpanGauge.Signature

open Pattern

structure Called (u f g : Bytes) : Prop where
  spaced : Spaced u
  name : IsName f
  gaps : ∀ b ∈ g, isGap b = true

theorem Called.bare {f : Bytes} (name : IsName f) : Called [] f [] :=
  ⟨.ofGaps (by simp), name, by simp⟩

section Called

variable {u f g t : Bytes}

theorem Called.punctuated (called : Called u f g) (t : Bytes) :
    Punctuated (g ++ byte '(' :: t) := ⟨g, byte '(', t, rfl, called.gaps, rfl⟩

/-- Behind a name that follows spaced words, the first byte that is in no word is the
parenthesis. -/
theorem mark_of_call {k nm h w : Bytes} {c : UInt8} (called : Called u f g) (spaced : Spaced k)
    (other : IsName nm) (gaps : ∀ b ∈ h, isGap b = true) (mark : (isGap c || isNamePart c) = false)
    (same : u ++ f ++ (g ++ byte '(' :: t) = k ++ nm ++ (h ++ c :: w)) : c = byte '(' :=
  (mark_unique same called.spaced called.name called.gaps rfl spaced other gaps mark).2.symm

theorem declarationLead_spaced {u : Bytes} (h : declarationLead.Derives u) :
    ∃ k m, u = k ++ Bytes.of "function" ++ m ∧ Spaced k ∧
      ∀ b ∈ m, (isGap b || b == byte '*') = true := by
  obtain ⟨u₁, _, rfl, h₁, h⟩ := derives_seq.mp h
  obtain ⟨u₂, _, rfl, h₂, h⟩ := derives_seq.mp h
  obtain ⟨u₃, _, rfl, h₃, h⟩ := derives_seq.mp h
  obtain ⟨w, m, rfl, hw, hm⟩ := derives_seq.mp h
  cases derives_word.mp hw
  have exported : Spaced u₂ := by
    apply spaced_optional _ h₂
    intro w hw
    obtain ⟨e, d, rfl, he, hd⟩ := derives_seq.mp hw
    have default : Spaced d := spaced_optional (fun _ => spaced_word (.word (by decide +kernel))) hd
    exact (spaced_word (.word (by decide +kernel)) he).append default
  have awaited : Spaced u₃ :=
    spaced_optional (fun _ => spaced_word (.word (by decide +kernel))) h₃
  have starred : (concat [gaps, optional (symbol '*'), gaps]).Over
      fun b => (isGap b || b == byte '*') = true :=
    .seq (.many (by simp_all)) (.seq (.optional (.one (by simp_all))) (.many (by simp_all)))
  exact ⟨u₁ ++ (u₂ ++ u₃), m, by simp, (spaced_gaps h₁).append (exported.append awaited),
    starred m hm⟩

/-- A declaration here has the keyword inside the name before the parenthesis, or among the
words in front of that name. -/
theorem function_of_call {k nm s : Bytes} (called : Called u f g) (lead : declarationLead.Derives k)
    (other : IsName nm) (marked : Punctuated s)
    (same : u ++ f ++ (g ++ byte '(' :: t) = k ++ nm ++ s) :
    f = Bytes.of "function" ++ nm ∨ Bytes.of "function" <:+: u := by
  obtain ⟨k, m, rfl, spaced, starred⟩ := declarationLead_spaced lead
  have keyword : IsName (Bytes.of "function") := ⟨by decide, by decide +kernel⟩
  have blank : ∀ b ∈ m, isGap b = true := by
    -- a star would be the first byte of the line that is in no word
    cases visible : m.dropWhile isGap with
    | nil => exact fun b member => List.dropWhile_eq_nil_iff.mp visible b member
    | cons c rest =>
      have split : m = m.takeWhile isGap ++ c :: rest := by
        rw [← visible, List.takeWhile_append_dropWhile]
      have first : isGap c = false := by
        simpa [visible] using List.head?_dropWhile_not isGap m
      have star : c = byte '*' := by
        have separates := starred c (by rw [split]; simp)
        simpa [first] using separates
      rw [split] at same
      simp only [List.append_assoc, List.cons_append] at same
      rw [← List.append_assoc, ← List.append_assoc k] at same
      have parenthesis := mark_of_call called spaced keyword
        (fun b member => List.all_eq_true.mp List.all_takeWhile b member) (by rw [star]; decide) same
      rw [star] at parenthesis
      cases parenthesis
  cases m with
  | nil =>
    rw [List.append_nil, List.append_assoc k] at same
    exact .inl (cut_unique same called.spaced called.name (called.punctuated t) spaced
      (keyword.append other.parts) marked).2
  | cons b m =>
    have apart : Spaced (k ++ (Bytes.of "function" ++ b :: m)) :=
      spaced.append (.ofWord keyword.parts (by simp) blank)
    rw [List.append_assoc k] at same
    obtain ⟨front, _⟩ := cut_unique same called.spaced called.name (called.punctuated t) apart
      other marked
    exact .inr ⟨k, b :: m, by rw [front, List.append_assoc]⟩

theorem declarationLead_function {g : Bytes} (blank : ∀ b ∈ g, isGap b = true) :
    declarationLead.Derives (Bytes.of "function" ++ g) := by
  have none : gaps.Derives [] := derives_many.mpr (by simp)
  have starless : (concat [gaps, optional (symbol '*'), gaps]).Derives g :=
    derives_seq.mpr ⟨g, [], by simp, derives_many.mpr blank, .seq (u := []) (.right .empty) none⟩
  have keyword : (concat [keyword "function", gaps, optional (symbol '*'), gaps]).Derives
      (Bytes.of "function" ++ g) := .seq (derives_word.mpr rfl) starless
  exact .seq (u := []) none (.seq (u := []) (.right .empty) (.seq (u := []) (.right .empty) keyword))

theorem declarationTail_parenthesis : declarationTail.Derives [byte '('] :=
  .seq (u := []) (derives_many.mpr (by simp)) (.one rfl)

theorem Form.fits_declaration_call {form : Form} (lead : form.lead = declarationLead)
    (tail : form.tail = declarationTail) (called : Called u f g) {nm : Bytes}
    (fits : form.Fits (u ++ f ++ (g ++ byte '(' :: t)) nm) :
    IsName nm ∧ (f = Bytes.of "function" ++ nm ∨ Bytes.of "function" <:+: u) := by
  obtain ⟨k, v, rest, same, hk, other, hv⟩ := fits
  rw [lead] at hk
  rw [tail] at hv
  have marked := punctuated_tail (symbol_starts '(') (by decide) hv
  rw [List.append_assoc (k ++ nm)] at same
  exact ⟨other, function_of_call called hk other (marked.append rest) same⟩

theorem Form.fits_declaration_bare {form : Form} (lead : form.lead = declarationLead)
    (tail : form.tail = declarationTail) (name : IsName f) {nm : Bytes} :
    form.Fits (f ++ byte '(' :: t) nm ↔ IsName nm ∧ f = Bytes.of "function" ++ nm := by
  constructor
  · intro fits
    obtain ⟨other, inside | before⟩ := Form.fits_declaration_call lead tail (.bare name) fits
    · exact ⟨other, inside⟩
    · exact absurd (List.infix_nil.mp before) (by decide)
  · rintro ⟨other, rfl⟩
    unfold Form.Fits
    rw [lead, tail]
    exact ⟨_, [byte '('], t, by simp, declarationLead_function (g := []) (by simp), other,
      declarationTail_parenthesis⟩

theorem Form.not_fits_call {form : Form} (lead : ∀ u, form.lead.Derives u → Spaced u)
    {q : Pattern UInt8} {c : UInt8} (tail : form.tail = .seq gaps q) (starts : q.StartsWith c)
    (mark : (isGap c || isNamePart c) = false) (other : c ≠ byte '(') (called : Called u f g)
    (nm : Bytes) : ¬ form.Fits (u ++ f ++ (g ++ byte '(' :: t)) nm := by
  rintro ⟨k, v, rest, same, hk, named, hv⟩
  rw [tail] at hv
  obtain ⟨h, w, rfl, hh, hw⟩ := derives_seq.mp hv
  obtain ⟨w, rfl⟩ := starts w hw
  rw [List.append_assoc (k ++ nm), List.append_assoc h, List.cons_append] at same
  exact other (mark_of_call called (lead k hk) named (derives_many.mp hh) mark same)

theorem Form.not_fits_without {form : Form} {c : UInt8} (ends : form.tail.EndsWith c)
    {line : Bytes} (absent : c ∉ line) (nm : Bytes) : ¬ form.Fits line nm := by
  rintro ⟨u, v, rest, rfl, _, _, hv⟩
  obtain ⟨w, rfl⟩ := ends v hv
  exact absent (by simp)

end Called

/-- The name is the keyword with a further name glued to it. -/
def LedByFunction (f : Bytes) : Prop := ∃ g, IsName g ∧ f = Bytes.of "function" ++ g

section Lines

variable {u f h t : Bytes}

theorem ofLine_led (name : IsName f) {g : Bytes} (rest : IsName g)
    (led : f = Bytes.of "function" ++ g) :
    ofLine (f ++ byte '(' :: t) = some ⟨.declaration, g⟩ := by
  apply ofLine_eq_some_iff.mpr
  refine ⟨[], _, _, rfl, rfl, ?_, by simp, by simp⟩
  exact (Form.fits_declaration_bare rfl rfl name).mpr ⟨rest, led⟩

theorem declaration_refused (called : Called u f h) (whole : ¬ LedByFunction f)
    (none : ¬ Bytes.of "function" <:+: u) (nm : Bytes) :
    ¬ Form.Fits ⟨.declaration, declarationLead, declarationTail, []⟩
      (u ++ f ++ (h ++ byte '(' :: t)) nm := by
  intro fits
  obtain ⟨other, inside | before⟩ := Form.fits_declaration_call rfl rfl called fits
  · exact whole ⟨nm, other, inside⟩
  · exact none before

theorem arrow_refused (called : Called u f h) (nm : Bytes) :
    ¬ Form.Fits ⟨.arrow, arrowLead, arrowTail, []⟩ (u ++ f ++ (h ++ byte '(' :: t)) nm :=
  Form.not_fits_call (fun _ => arrowLead_spaced) rfl ((symbol_starts '=').seq _) (by decide)
    (by decide) called nm

theorem objectMethod_refused (called : Called u f h) (nm : Bytes) :
    ¬ Form.Fits ⟨.objectMethod, objectMethodLead, objectMethodTail, []⟩
      (u ++ f ++ (h ++ byte '(' :: t)) nm :=
  Form.not_fits_call (fun _ => spaced_gaps) rfl ((symbol_starts ':').seq _) (by decide)
    (by decide) called nm

theorem only_method (called : Called u f h) (whole : ¬ LedByFunction f)
    (none : ¬ Bytes.of "function" <:+: u) {form : Form} (member : form ∈ forms) {nm : Bytes}
    (fits : form.Fits (u ++ f ++ (h ++ byte '(' :: t)) nm) :
    form = ⟨.method, methodLead, methodTail, controlWords⟩ ∧ nm = f := by
  simp only [forms, List.mem_cons, List.not_mem_nil, or_false] at member
  rcases member with rfl | rfl | rfl | rfl
  · exact absurd fits (declaration_refused called whole none nm)
  · exact absurd fits (arrow_refused called nm)
  · obtain ⟨k, v, rest, same, hk, other, hv⟩ := fits
    have marked : Punctuated v := punctuated_tail (((symbol_starts '(').seq _).seq _) (by decide) hv
    rw [List.append_assoc (k ++ nm)] at same
    have cut := cut_unique same called.spaced called.name (called.punctuated t)
      (methodLead_spaced hk) other (marked.append rest)
    exact ⟨rfl, cut.2.symm⟩
  · exact absurd fits (objectMethod_refused called nm)

theorem function_not_before : ¬ Bytes.of "function" <:+: [] := by
  intro before
  exact absurd (List.infix_nil.mp before) (by decide)

theorem ofLine_call (name : IsName f) (whole : ¬ LedByFunction f) (plain : byte '{' ∉ t) :
    ofLine (f ++ byte '(' :: t) = none := by
  have braceless : byte '{' ∉ f ++ byte '(' :: t := by
    intro member
    rcases List.mem_append.mp member with inside | inside
    · cases name.parts _ inside
    · rcases List.mem_cons.mp inside with same | inside
      · cases same
      · exact plain inside
  apply ofLine_eq_none_iff.mpr
  intro form member nm fits
  obtain ⟨rfl, _⟩ := only_method (.bare name) whole function_not_before member fits
  exact absurd fits (Form.not_fits_without (.concat [_, _, _, _] (symbol_ends '{')) braceless nm)

theorem methodTail_parameters {p : Bytes} (gaps : ∀ b ∈ h, isGap b = true) (inside : byte ')' ∉ p) :
    methodTail.Derives (h ++ byte '(' :: (p ++ Bytes.of ") \x7b")) := by
  have brackets : parenthesised.Derives (byte '(' :: (p ++ [byte ')'])) := by
    refine .seq (u := [byte '(']) (.one rfl) (.seq (derives_many.mpr ?_) (.one rfl))
    intro b member
    rw [bne_iff_ne]
    rintro rfl
    exact inside member
  have opening : (concat [Signature.gaps, optional (concat [symbol ':', Signature.gaps, some1 fun b =>
      b != byte '=' && b != byte '{']), symbol '{']).Derives [byte ' ', byte '{'] :=
    .seq (u := [byte ' ']) (derives_many.mpr (by decide +kernel))
      (.seq (u := []) (.right .empty) (.one rfl))
  have whole := Derives.seq (p := Signature.gaps) (derives_many.mpr gaps) (.seq brackets opening)
  rw [List.cons_append, List.append_assoc] at whole
  exact whole

/-- Behind modifiers, a name that is no control word is that of a method. -/
theorem ofLine_modified {p : Bytes} (called : Called u f h) (whole : ¬ LedByFunction f)
    (none : ¬ Bytes.of "function" <:+: u) (lead : methodLead.Derives u) (free : f ∉ controlWords)
    (inside : byte ')' ∉ p) :
    ofLine (u ++ f ++ (h ++ byte '(' :: (p ++ Bytes.of ") \x7b"))) = some ⟨.method, f⟩ := by
  apply ofLine_eq_some_iff.mpr
  refine ⟨[_, _], _, [_], rfl, rfl, ?_, free, ?_⟩
  · exact ⟨u, _, [], by simp, lead, called.name, methodTail_parameters called.gaps inside⟩
  · intro form member nm fits
    have earlier : form ∈ forms := List.mem_append_left [_, _] member
    obtain ⟨rfl, _⟩ := only_method called whole none earlier fits
    simp at member

theorem ofLine_method {p : Bytes} (name : IsName f) (whole : ¬ LedByFunction f)
    (free : f ∉ controlWords) (inside : byte ')' ∉ p) :
    ofLine (f ++ byte '(' :: (p ++ Bytes.of ") \x7b")) = some ⟨.method, f⟩ := by
  have blank : methodLead.Derives [] := .seq (u := []) (derives_many.mpr (by simp)) .stop
  exact ofLine_modified (.bare name) whole function_not_before blank free inside

end Lines

/-- Behind any indentation, a call has no signature and a method has its own name, exactly
when the name in front of the parenthesis is not `function` with a further name glued to it.
Such a name is read as a declaration of that further name. -/
theorem name_before_parenthesis (indent f a p : Bytes) (gaps : ∀ b ∈ indent, isGap b = true)
    (name : IsName f) :
    (byte '{' ∉ a →
      (ofLine (indent ++ (f ++ byte '(' :: (a ++ Bytes.of ");"))) = none ↔ ¬ LedByFunction f) ∧
      ∀ g, IsName g → f = Bytes.of "function" ++ g →
        ofLine (indent ++ (f ++ byte '(' :: (a ++ Bytes.of ");"))) = some ⟨.declaration, g⟩) ∧
    (f ∉ controlWords → byte ')' ∉ p →
      (ofLine (indent ++ (f ++ byte '(' :: (p ++ Bytes.of ") \x7b"))) = some ⟨.method, f⟩ ↔
        ¬ LedByFunction f) ∧
      ∀ g, IsName g → f = Bytes.of "function" ++ g →
        ofLine (indent ++ (f ++ byte '(' :: (p ++ Bytes.of ") \x7b"))) =
          some ⟨.declaration, g⟩) := by
  rw [ofLine_indent gaps, ofLine_indent gaps]
  constructor
  · intro plain
    have braceless : byte '{' ∉ a ++ Bytes.of ");" := by
      rw [List.mem_append, not_or]
      exact ⟨plain, by decide⟩
    refine ⟨⟨?_, fun whole => ofLine_call name whole braceless⟩, fun g => ofLine_led name⟩
    rintro none ⟨g, rest, led⟩
    rw [ofLine_led name rest led] at none
    cases none
  · intro free inside
    refine ⟨⟨?_, fun whole => ofLine_method name whole free inside⟩, fun g => ofLine_led name⟩
    rintro method ⟨g, rest, led⟩
    rw [ofLine_led name rest led] at method
    cases method

theorem digitNames_whole :
    ofLine (Bytes.of "\tfunction1(f(a), b);") = none ∧
    ofLine (Bytes.of "\tfunction1(a = \x7b \x7d, b) \x7b") =
      some ⟨.method, Bytes.of "function1"⟩ := by
  -- a digit starts no name, so nothing is glued to the keyword
  have whole : ¬ LedByFunction (Bytes.of "function1") := by
    rintro ⟨g, name, same⟩
    have digit : g = [byte '1'] := by
      have split : Bytes.of "function1" = Bytes.of "function" ++ [byte '1'] := by decide
      exact List.append_cancel_left (same.symm.trans split)
    rw [digit] at name
    cases name.1
  have call : Bytes.of "\tfunction1(f(a), b);" = Bytes.of "\t" ++
      (Bytes.of "function1" ++ byte '(' :: (Bytes.of "f(a), b" ++ Bytes.of ");")) := by decide
  have method : Bytes.of "\tfunction1(a = \x7b \x7d, b) \x7b" = Bytes.of "\t" ++
      (Bytes.of "function1" ++ byte '(' :: (Bytes.of "a = \x7b \x7d, b" ++ Bytes.of ") \x7b")) := by
    decide
  obtain ⟨called, defined⟩ := name_before_parenthesis (Bytes.of "\t") (Bytes.of "function1")
    (Bytes.of "f(a), b") (Bytes.of "a = \x7b \x7d, b") (by decide +kernel)
    ⟨by decide, by decide +kernel⟩
  rw [call, method]
  exact ⟨(called (by decide)).1.mpr whole, (defined (by decide) (by decide)).1.mpr whole⟩

/-- A call and a method whose names begin with the keyword. -/
theorem gluedNames_declared :
    IsName (Bytes.of "functional") ∧ Bytes.of "functional" ≠ Bytes.of "function" ∧
    Bytes.of "functional" ∉ controlWords ∧
    ofLine (Bytes.of "functional(a);") = some ⟨.declaration, Bytes.of "al"⟩ ∧
    ofLine (Bytes.of "functional(a) \x7b") = some ⟨.declaration, Bytes.of "al"⟩ := by
  refine ⟨⟨by decide, by decide +kernel⟩, by decide, by decide, by decide +kernel,
    by decide +kernel⟩

end SpanGauge.Signature
