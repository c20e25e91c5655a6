import Mathlib.Data.FinEnum
import SpanGauge.Allow
import SpanGauge.Proofs.Signature.Word
import SpanGauge.Proofs.Text.Utf8

/-! Entries that are paths. Whatever a glob makes of a path, an entry with the text of it covers
it, at the root and below every directory; and of several entries the first decides. -/
namespace SpanGauge

section Pieces

variable {sep : UInt8} {s t : Bytes}

theorem Bytes.splitLast?_append (apart : sep ∉ t) :
    Bytes.splitLast? sep (s ++ sep :: t) = some (s, t) := by
  have found : (s ++ sep :: t).has sep = true := by simp [Bytes.has]
  have after : (s ++ sep :: t).reverse.takeWhile (· != sep) = t.reverse := by
    have passes : ∀ b ∈ t.reverse, (b != sep) = true := by
      intro b member
      rw [bne_iff_ne]
      rintro rfl
      exact apart (List.mem_reverse.mp member)
    rw [List.reverse_append, List.reverse_cons, List.append_assoc, List.singleton_append]
    exact Signature.takeWhile_run passes (.cons (by simp) _)
  have size : (s ++ sep :: t).length - t.length - 1 = s.length := by
    rw [List.length_append, List.length_cons]
    omega
  rw [Bytes.splitLast?, if_pos found]
  dsimp only
  rw [after, List.reverse_reverse, size, List.take_left]

theorem Bytes.splitLast?_none (apart : sep ∉ s) : Bytes.splitLast? sep s = none := by
  rw [Bytes.splitLast?, if_neg]
  simpa [Bytes.has] using apart

end Pieces

namespace Allow

structure Named (f : Bytes) : Prop where
  nonempty : f ≠ []
  trimmed : Text.trim f = f
  whole : byte ':' ∉ f

theorem named_of_isName {f : Bytes} (name : Signature.IsName f) : Named f := by
  have parts : ∀ b : UInt8, Signature.isNamePart b = true →
      b < 0x80 ∧ Text.isBlank (Text.charOf b) = false ∧ b ≠ byte ':' := by
    decide +kernel
  refine ⟨name.ne_nil, ?_, fun colon => (parts _ (name.parts _ colon)).2.2 rfl⟩
  apply Text.trim_ascii
  · exact fun b member => (parts b (name.parts b member)).1
  · exact fun b first => (parts b (name.parts b (List.mem_of_head? first))).2.1
  · exact fun b last => (parts b (name.parts b (List.mem_of_getLast? last))).2.1

section Entry

variable {p f r g : Bytes}

theorem trim_entry (front : Text.trim p = p) (back : Text.trim f = f) :
    Text.trim (p ++ byte ':' :: f) = p ++ byte ':' :: f := by
  have colon : byte ':' < 0x80 := by decide
  have visible : Text.isBlank (Text.charOf (byte ':')) = false := by decide
  apply Text.trim_of_ends
  · intro c first
    rw [Text.chars_append colon, List.head?_append, Option.or_eq_some_iff] at first
    rcases first with here | ⟨-, behind⟩
    · exact (Text.ends_of_trim front).1 c here
    · cases behind
      exact visible
  · intro c last
    rw [Text.chars_append colon, List.getLast?_append, List.getLast?_cons, Option.some_or,
      Option.some.injEq] at last
    subst last
    cases ends : (Text.chars f).getLast? with
    | none => exact visible
    | some c => exact (Text.ends_of_trim back).2 c ends

/-- A path that is another one, or ends in it below some directory. -/
def Reaches (r p : Bytes) : Prop := r = p ∨ byte '/' :: p <:+ r

theorem Reaches.dropLead (reach : Reaches r p) :
    Reaches (Bytes.dropLead r here) (Bytes.dropLead p here) := by
  rcases reach with rfl | below
  · exact .inl rfl
  have inner : byte '/' :: Bytes.dropLead p here <:+ r := by
    refine List.IsSuffix.trans ?_ below
    unfold Bytes.dropLead
    split
    · rename_i lead
      obtain ⟨q, rfl⟩ := List.isPrefixOf_iff_prefix.mp lead
      rw [List.drop_left]
      exact ⟨[byte '/', byte '.'], rfl⟩
    · exact List.suffix_rfl
  rw [Bytes.dropLead]
  split
  · rename_i lead
    obtain ⟨q, rfl⟩ := List.isPrefixOf_iff_prefix.mp lead
    rw [List.drop_left]
    -- the slash before the shorter path is not the dot, so it is the slash behind it or later
    have spelled : here ++ q = byte '.' :: byte '/' :: q := rfl
    rw [spelled, List.suffix_cons_iff, List.suffix_cons_iff] at inner
    rcases inner with dot | same | later
    · exact absurd (List.cons.inj dot).1 (by decide)
    · exact .inl (List.cons.inj same).2.symm
    · exact .inr later
  · exact .inr inner

theorem coversPath_of_reaches (rule : Rule) (reach : Reaches r rule.pattern) :
    rule.coversPath r = true := by
  rcases reach with same | below
  · simp [Rule.coversPath, same]
  · simp [Rule.coversPath, Bytes.endsWith, List.isSuffixOf_iff_suffix.mpr below]

theorem ofEntries_single {e : Bytes} (nonempty : e ≠ []) (trimmed : Text.trim e = e) :
    ofEntries [e] = [Rule.ofText e] := by
  simp [ofEntries, trimmed, nonempty]

theorem ofText_named (whole : byte ':' ∉ f) :
    Rule.ofText (p ++ byte ':' :: f) = ⟨p ++ byte ':' :: f, Bytes.dropLead p here, f⟩ := by
  rw [Rule.ofText, Bytes.splitLast?_append whole]

theorem ofText_bare (whole : byte ':' ∉ p) : Rule.ofText p = ⟨p, Bytes.dropLead p here, []⟩ := by
  rw [Rule.ofText, Bytes.splitLast?_none whole]

theorem find?_named (trimmed : Text.trim p = p) (name : Named f)
    (reach : Reaches r p) (g : Bytes) :
    ((ofEntries [p ++ byte ':' :: f]).find? r g).map Rule.raw =
      if g = f then some (p ++ byte ':' :: f) else none := by
  have entry := ofEntries_single (by simp) (trim_entry trimmed name.trimmed)
  rw [entry, ofText_named name.whole, find?, List.find?_singleton]
  have path := coversPath_of_reaches ⟨p ++ byte ':' :: f, Bytes.dropLead p here, f⟩ reach.dropLead
  by_cases same : g = f
  · simp [Rule.covers, path, same]
  · have other : f ≠ g := fun eq => same eq.symm
    simp [Rule.covers, same, other, name.nonempty]

theorem find?_bare (nonempty : p ≠ []) (trimmed : Text.trim p = p) (whole : byte ':' ∉ p)
    (reach : Reaches r p) (g : Bytes) :
    ((ofEntries [p]).find? r g).map Rule.raw = some p := by
  have path := coversPath_of_reaches ⟨p, Bytes.dropLead p here, []⟩ reach.dropLead
  rw [ofEntries_single nonempty trimmed, ofText_bare whole, find?, List.find?_singleton]
  simp [Rule.covers, path]

theorem raw_ofText (e : Bytes) : (Rule.ofText e).raw = e := by
  unfold Rule.ofText
  split <;> rfl

theorem ofEntries_cons (e : Bytes) (entries : List Bytes) :
    ofEntries (e :: entries) = ofEntries [e] ++ ofEntries entries := by
  simp only [ofEntries, List.map_cons, List.map_nil, ← List.map_append, ← List.filter_append,
    List.singleton_append]

theorem raw_of_find?_single {e : Bytes} {rule : Rule}
    (found : (ofEntries [e]).find? r g = some rule) : rule.raw = Text.trim e := by
  have member := List.mem_of_find?_eq_some found
  obtain ⟨entry, at_entry, rfl⟩ := List.mem_map.mp member
  rw [raw_ofText]
  exact List.mem_singleton.mp (List.mem_of_mem_filter at_entry)

/-- The first entry decides that covers the function when it is alone. -/
theorem find?_first (entries : List Bytes) (r g : Bytes) :
    ((ofEntries entries).find? r g).map Rule.raw =
      (entries.find? fun e => ((ofEntries [e]).find? r g).isSome).map Text.trim := by
  induction entries with
  | nil => rfl
  | cons e entries ih =>
    have split : (ofEntries (e :: entries)).find? r g =
        ((ofEntries [e]).find? r g).or ((ofEntries entries).find? r g) := by
      rw [ofEntries_cons]
      exact List.find?_append
    rw [split]
    cases alone : (ofEntries [e]).find? r g with
    | none =>
      rw [List.find?_cons_of_neg (by simp [alone]), ← ih]
      rfl
    | some rule =>
      rw [List.find?_cons_of_pos (by simp [alone]), Option.some_or, Option.map_some,
        raw_of_find?_single alone]
      rfl

end Entry

end Allow

open Allow in
/-- An entry that is a path covers it, with or without a function; and the first of several
entries that covers a function is the one that is told. -/
theorem literal_entry_covers :
    (∀ p f r : Bytes, Text.trim p = p → Named f → Reaches r p → ∀ g : Bytes,
      ((ofEntries [p ++ byte ':' :: f]).find? r g).map Rule.raw =
        if g = f then some (p ++ byte ':' :: f) else none) ∧
    (∀ p r : Bytes, p ≠ [] → Text.trim p = p → byte ':' ∉ p → Reaches r p → ∀ g : Bytes,
      ((ofEntries [p]).find? r g).map Rule.raw = some p) ∧
    ∀ (entries : List Bytes) (r g : Bytes),
      ((ofEntries entries).find? r g).map Rule.raw =
        (entries.find? fun e => ((ofEntries [e]).find? r g).isSome).map Text.trim := by
  refine ⟨?_, ?_, find?_first⟩
  · intro p f r trimmed name reach g
    exact find?_named trimmed name reach g
  · intro p r nonempty trimmed whole reach g
    exact find?_bare nonempty trimmed whole reach g

/-- A path that a glob reads as a set of two characters. -/
def bracketed : Bytes := Bytes.of "./[id].js"

open Allow in
theorem bracketed_covered :
    Glob.isMatch bracketed bracketed = false ∧ Named (Bytes.of "load") ∧
      Reaches (Bytes.of "./app/./[id].js") bracketed ∧
      ((ofEntries [bracketed ++ byte ':' :: Bytes.of "load"]).find?
        (Bytes.of "./app/./[id].js") (Bytes.of "load")).map Rule.raw =
          some (bracketed ++ byte ':' :: Bytes.of "load") ∧
      ((ofEntries [bracketed]).find? (Bytes.of "./app/./[id].js") (Bytes.of "save")).map Rule.raw =
        some bracketed ∧
      ((ofEntries [Bytes.of " ", Bytes.of "b.js", Bytes.of " [id].js "]).find?
        (Bytes.of "[id].js") (Bytes.of "save")).map Rule.raw = some (Bytes.of "[id].js") := by
  obtain ⟨named, bare, first⟩ := literal_entry_covers
  have trimmed : Text.trim bracketed = bracketed := by decide +kernel
  have name : Named (Bytes.of "load") :=
    named_of_isName ⟨by decide +kernel, by decide +kernel⟩
  have reach : Reaches (Bytes.of "./app/./[id].js") bracketed := .inr (by decide +kernel)
  refine ⟨by decide +kernel, name, reach, ?_, ?_, ?_⟩
  · rw [named bracketed (Bytes.of "load") _ trimmed name reach, if_pos rfl]
  · exact bare bracketed _ (by decide +kernel) trimmed (by decide +kernel) reach _
  · rw [first]
    decide +kernel

end SpanGauge
