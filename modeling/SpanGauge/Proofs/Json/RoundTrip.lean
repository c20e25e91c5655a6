import SpanGauge.Proofs.Json.Quoted
import SpanGauge.Proofs.Signature.Word
import SpanGauge.Proofs.Text.Number

/-! JSON values are read back from their indented text. The text of a value says by its own
bytes where it ends, so a reader that is given enough steps takes exactly that text. -/
namespace SpanGauge.Json
open Text

def Ends (rest : Bytes) : Prop :=
  ∀ b, rest.head? = some b → isGap b = true ∨ b = byte ',' ∨ b = byte ']' ∨ b = byte '}'

def Gaps (gap : Bytes) : Prop := ∀ b ∈ gap, isGap b = true

/-- The reader takes the value `a` from the text `t`, whatever blanks stand before it and
whatever may stand behind it. -/
structure Written {α : Type} (read : Nat → Bytes → Option (α × Bytes)) (t : Bytes) (a : α) : Prop where
  opens : ∃ b r, t = b :: r ∧ isGap b = false ∧ b ≠ byte ']' ∧ b ≠ byte '}'
  reads : ∀ fuel gap rest, 2 * t.length ≤ fuel → Gaps gap → Ends rest →
    read fuel (gap ++ (t ++ rest)) = some (a, rest)

section Gaps

variable {gap s : Bytes}

theorem skip_gaps (gaps : Gaps gap) (s : Bytes) : skip (gap ++ s) = skip s :=
  List.dropWhile_append_of_pos gaps

theorem skip_visible {b : UInt8} (visible : isGap b = false) (s : Bytes) :
    skip (b :: s) = b :: s := by
  rw [skip, List.dropWhile_cons_of_neg (by simp [visible])]

theorem value?_gaps (gaps : Gaps gap) (fuel : Nat) (s : Bytes) :
    value? fuel (gap ++ s) = value? fuel s := by
  cases fuel with
  | zero => rfl
  | succ fuel =>
    rw [value?.eq_def, value?.eq_def fuel.succ s]
    dsimp only
    rw [skip_gaps gaps]

theorem gaps_nil : Gaps [] := fun _ member => nomatch member

def lineGap (depth : Nat) : Bytes := byte '\n' :: Bytes.replicate (2 * depth) ' '

theorem gaps_line (depth : Nat) : Gaps (lineGap depth) := by
  intro b member
  rcases List.mem_cons.mp member with rfl | space
  · decide
  · rw [List.eq_of_mem_replicate space]
    decide

theorem Ends.cons {b : UInt8} (ends : b = byte ',' ∨ b = byte ']' ∨ b = byte '}') (s : Bytes) :
    Ends (b :: s) := by
  intro c head
  cases Option.some.inj head
  exact .inr ends

theorem Gaps.ends {rest : Bytes} (gaps : Gaps gap) (ends : Ends rest) : Ends (gap ++ rest) := by
  cases gap with
  | nil => exact ends
  | cons b gap =>
    intro c head
    cases Option.some.inj head
    exact .inl (gaps b List.mem_cons_self)

end Gaps

section Numbers

theorem Ends.head {rest : Bytes} (ends : Ends rest) {b : UInt8} (head : rest.head? = some b) :
    Bytes.isDigit b = false ∧ b ≠ byte '.' ∧ b ≠ byte 'e' ∧ b ≠ byte 'E' := by
  rcases ends b head with gap | rfl | rfl | rfl
  · simp only [isGap, Bool.or_eq_true, beq_iff_eq] at gap
    rcases gap with ((rfl | rfl) | rfl) | rfl <;> decide
  · decide
  · decide
  · decide

theorem numberLength?_digits {sign : Bytes} (signed : sign = [] ∨ sign = [byte '-']) (m : Nat)
    {rest : Bytes} (ends : Ends rest) :
    numberLength? (sign ++ decimal m ++ rest) = some (sign ++ decimal m).length := by
  obtain ⟨b, more, text, digit, zero⟩ := decimal_cons m
  have front : (if (sign ++ decimal m ++ rest).head? == some (byte '-') then 1 else 0) =
      sign.length := by
    rcases signed with rfl | rfl
    · have minus : b ≠ byte '-' := ne_of_isDigit digit (by decide)
      simp [text, minus]
    · simp
  have whole : ((sign ++ decimal m ++ rest).drop sign.length).takeWhile Bytes.isDigit =
      decimal m := by
    rw [List.append_assoc, List.drop_left]
    exact Signature.takeWhile_run (digits_decimal (by omega)) fun c head => (ends.head head).1
  have first : (if (decimal m).head? == some (byte '0') then 1 else (decimal m).length) =
      (decimal m).length := by
    split
    · rename_i leads
      rw [text, List.head?_cons, beq_iff_eq, Option.some.injEq] at leads
      rw [text, zero leads]
      rfl
    · rfl
  have behind : (sign ++ decimal m ++ rest).drop (sign.length + (decimal m).length) = rest :=
    List.drop_left' (List.length_append ..)
  have other : ∀ c, c = byte '.' ∨ c = byte 'e' ∨ c = byte 'E' →
      (rest.head? == some c) = false := by
    intro c mark
    rw [beq_eq_false_iff_ne]
    intro head
    obtain ⟨-, point, small, large⟩ := ends.head head
    rcases mark with rfl | rfl | rfl <;> contradiction
  unfold numberLength?
  dsimp only
  rw [front, whole, if_neg (by simp [text]), first, behind, other (byte '.') (.inl rfl)]
  simp [other (byte 'e') (.inr (.inl rfl)), other (byte 'E') (.inr (.inr rfl))]

theorem decimal_signed (n : Int) :
    ∃ sign m, decimal n = sign ++ decimal (m : Nat) ∧ (sign = [] ∨ sign = [byte '-']) := by
  cases n with
  | ofNat m => exact ⟨[], m, rfl, .inl rfl⟩
  | negSucc m => exact ⟨[byte '-'], m + 1, decimal_neg m, .inr rfl⟩

variable {b : UInt8} (leads : Bytes.isDigit b = true ∨ b = byte '-')

include leads in
theorem ne_of_leads {c : UInt8} (apart : Bytes.isDigit c = false) (unsigned : c ≠ byte '-') :
    b ≠ c := by
  rintro rfl
  rcases leads with digit | sign
  · exact ne_of_isDigit digit apart rfl
  · exact unsigned sign

include leads in
theorem visible_of_leads : isGap b = false := by
  have other {c : UInt8} := ne_of_leads leads (c := c)
  simp [isGap, other (c := byte ' ') (by decide) (by decide), other (c := 9) (by decide) (by decide),
    other (c := 10) (by decide) (by decide), other (c := 13) (by decide) (by decide)]

end Numbers

section Scalars

variable (fuel : Nat) (s : Bytes)

theorem value?_string :
    value? (fuel + 1) (byte '"' :: s) = (string? (byte '"' :: s)).map fun r => (.text r.1, r.2) := rfl

theorem value?_null : value? (fuel + 1) (Bytes.of "null" ++ s) = some (.null, s) := rfl

theorem value?_bool (b : Bool) :
    value? (fuel + 1) (Bytes.of (if b then "true" else "false") ++ s) = some (.bool b, s) := by
  cases b <;> rfl

theorem value?_number {b : UInt8} (leads : Bytes.isDigit b = true ∨ b = byte '-') :
    value? (fuel + 1) (b :: s) =
      (numberLength? (b :: s)).map fun n => (.number ((b :: s).take n), (b :: s).drop n) := by
  rw [value?.eq_def]
  dsimp only
  rw [skip_visible (visible_of_leads leads)]
  simp only [beq_iff_eq, ne_of_leads leads (c := byte '{') (by decide) (by decide), leads,
    ne_of_leads leads (c := byte '[') (by decide) (by decide), Bool.or_eq_true,
    ne_of_leads leads (c := byte '"') (by decide) (by decide), if_true, if_false]

theorem value?_list :
    value? (fuel + 1) (byte '[' :: s) =
      if (skip s).head? == some (byte ']') then some (.list [], (skip s).tail)
      else items? fuel [] (skip s) := rfl

theorem value?_object :
    value? (fuel + 1) (byte '{' :: s) =
      if (skip s).head? == some (byte '}') then some (.object [], (skip s).tail)
      else members? fuel [] (skip s) := rfl

end Scalars

section Values

variable {t : Bytes} {j : Json}

theorem Written.of_value {b : UInt8} {r : Bytes} (text : t = b :: r) (visible : isGap b = false)
    (apart : b ≠ byte ']' ∧ b ≠ byte '}')
    (reads : ∀ fuel rest, 2 * t.length ≤ fuel + 1 → Ends rest →
      value? (fuel + 1) (t ++ rest) = some (j, rest)) : Written value? t j := by
  refine ⟨⟨b, r, text, visible, apart⟩, fun fuel gap rest enough gaps ends => ?_⟩
  rw [value?_gaps gaps]
  cases fuel with
  | zero => simp [text] at enough
  | succ fuel => exact reads fuel rest enough ends

theorem null_written : Written value? (Bytes.of "null") .null := by
  apply Written.of_value (b := byte 'n') rfl (by decide) (by decide)
  intro fuel rest _ _
  exact value?_null fuel rest

theorem bool_written (b : Bool) :
    Written value? (Bytes.of (if b then "true" else "false")) (.bool b) := by
  have opens : ∃ c r, Bytes.of (if b then "true" else "false") = c :: r ∧ isGap c = false ∧
      c ≠ byte ']' ∧ c ≠ byte '}' := by
    cases b
    · exact ⟨byte 'f', _, rfl, by decide⟩
    · exact ⟨byte 't', _, rfl, by decide⟩
  obtain ⟨c, r, text, visible, apart⟩ := opens
  apply Written.of_value text visible apart
  intro fuel rest _ _
  exact value?_bool fuel rest b

theorem text_written (e : Escaping) {s : Bytes} (valid : isValid s = true) :
    Written value? (stringText e s) (.text s) := by
  apply Written.of_value (b := byte '"') rfl (by decide) (by decide)
  intro fuel rest _ _
  have read := string?_stringText e valid rest
  change value? (fuel + 1) (byte '"' :: _) = _
  rw [value?_string]
  change string? (byte '"' :: _) = _ at read
  rw [read]
  rfl

theorem int_written (n : Int) : Written value? (decimal n) (.int n) := by
  obtain ⟨sign, m, text, signed⟩ := decimal_signed n
  obtain ⟨b, more, digits, digit, -⟩ := decimal_cons m
  have leads : ∃ c r, decimal n = c :: r ∧ (Bytes.isDigit c = true ∨ c = byte '-') := by
    rcases signed with rfl | rfl
    · exact ⟨b, more, text.trans digits, .inl digit⟩
    · exact ⟨byte '-', decimal m, text, .inr rfl⟩
  obtain ⟨c, r, start, leads⟩ := leads
  have read : ∀ {rest}, Ends rest → numberLength? (decimal n ++ rest) = some (decimal n).length := by
    intro rest ends
    rw [text]
    exact numberLength?_digits signed m ends
  apply Written.of_value start (visible_of_leads leads)
  · exact ⟨ne_of_leads leads (by decide) (by decide), ne_of_leads leads (by decide) (by decide)⟩
  intro fuel rest _ ends
  have size := read ends
  rw [start, List.cons_append, value?_number fuel _ leads]
  rw [start, List.cons_append] at size
  rw [size, Option.map_some, ← List.cons_append, List.take_left, List.drop_left, int, start]

end Values

section Brackets

variable {α : Type} {read : Nat → Bytes → Option (α × Bytes)}
  {loop : Nat → List α → Bytes → Option (Json × Bytes)} {wrap : List α → Json}
  {opening closing : Char}

/-- Values between brackets: the loop reads one element after the other, goes on behind a
comma and is over at the closing bracket. -/
structure Brackets {α : Type} (read : Nat → Bytes → Option (α × Bytes))
    (loop : Nat → List α → Bytes → Option (Json × Bytes)) (wrap : List α → Json)
    (opening closing : Char) : Prop where
  visible : isGap (byte opening) = false ∧ byte opening ≠ byte ']' ∧ byte opening ≠ byte '}'
  close : byte closing = byte ']' ∨ byte closing = byte '}'
  opened : ∀ fuel s, value? (fuel + 1) (byte opening :: s) =
    if (skip s).head? == some (byte closing) then some (wrap [], (skip s).tail)
    else loop fuel [] (skip s)
  more : ∀ {fuel s a after} (acc), read fuel s = some (a, byte ',' :: after) →
    loop (fuel + 1) acc s = loop fuel (a :: acc) after
  last : ∀ {fuel s a gap after} (acc), Gaps gap →
    read fuel s = some (a, gap ++ byte closing :: after) →
    loop (fuel + 1) acc s = some (wrap (a :: acc).reverse, after)

def others (line : Bytes) (es : List (Bytes × α)) : Bytes :=
  es.flatMap fun e => comma ++ line ++ e.1

theorem Brackets.loop_reads (brackets : Brackets read loop wrap opening closing)
    {line tail : Bytes} (gaps : Gaps line) (gaps' : Gaps tail) (rest : Bytes) {t : Bytes} {a : α}
    {es : List (Bytes × α)} (written : Written read t a) (all : ∀ e ∈ es, Written read e.1 e.2)
    {fuel : Nat} (enough : 2 * (t ++ others line es).length < fuel) {gap : Bytes} (blank : Gaps gap)
    (acc : List α) :
    loop fuel acc (gap ++ (t ++ (others line es ++ (tail ++ byte closing :: rest)))) =
      some (wrap (acc.reverse ++ a :: es.map Prod.snd), rest) := by
  -- one element more in `acc` for each step, and the others are fewer by one
  induction es generalizing t a fuel gap acc with
  | nil =>
    cases fuel with
    | zero => omega
    | succ fuel =>
      have ends : Ends (tail ++ byte closing :: rest) := gaps'.ends (.cons (.inr brackets.close) rest)
      have short : 2 * t.length ≤ fuel := by
        rw [List.length_append] at enough
        omega
      have first := written.reads fuel gap _ short blank ends
      exact (brackets.last acc gaps' first).trans (by simp)
  | cons e es ih =>
    cases fuel with
    | zero => omega
    | succ fuel =>
      have text : others line (e :: es) ++ (tail ++ byte closing :: rest) =
          byte ',' :: (line ++ (e.1 ++ (others line es ++ (tail ++ byte closing :: rest)))) := by
        simp [others, comma]
      have size : (others line (e :: es)).length = 1 + line.length + (e.1 ++ others line es).length := by
        simp [others, comma]
        omega
      rw [List.length_append, size] at enough
      obtain ⟨next, all⟩ := List.forall_mem_cons.mp all
      rw [text, brackets.more acc (written.reads fuel gap _ (by omega) blank (.cons (.inl rfl) _)),
        ih next all (by omega) gaps]
      simp

theorem join_eq_append (sep t : Bytes) (ts : List Bytes) :
    Bytes.join sep (t :: ts) = t ++ ts.flatMap fun u => sep ++ u := by
  induction ts generalizing t with
  | nil => simp [Bytes.join]
  | cons u ts ih =>
    have step : Bytes.join sep (t :: u :: ts) = t ++ (sep ++ Bytes.join sep (u :: ts)) := by
      simp [Bytes.join]
    rw [step, ih, List.flatMap_cons, List.append_assoc]

theorem block_cons (depth : Nat) (e : Bytes × α) (es : List (Bytes × α)) :
    block depth opening closing ((e :: es).map Prod.fst) =
      byte opening :: (lineGap (depth + 1) ++ (e.1 ++ (others (lineGap (depth + 1)) es ++
        (lineGap depth ++ [byte closing])))) := by
  have deeper : 2 * (depth + 1) = 2 * depth + 2 := by omega
  simp [block, join_eq_append, others, lineGap, List.flatMap_map, deeper]

section Texts

variable {t : Bytes} {a : α} (written : Written read t a)

include written in
theorem Written.skip_gaps {gap : Bytes} (gaps : Gaps gap) (s : Bytes) :
    skip (gap ++ (t ++ s)) = t ++ s := by
  obtain ⟨b, r, rfl, visible, -⟩ := written.opens
  rw [Json.skip_gaps gaps, List.cons_append, skip_visible visible]

include written in
theorem Written.head_ne {c : UInt8} (close : c = byte ']' ∨ c = byte '}') (s : Bytes) :
    ((t ++ s).head? == some c) = false := by
  obtain ⟨b, r, rfl, -, square, curly⟩ := written.opens
  rw [List.cons_append, List.head?_cons, beq_eq_false_iff_ne, Ne, Option.some.injEq]
  rcases close with rfl | rfl
  · exact square
  · exact curly

end Texts

theorem Brackets.empty_written (brackets : Brackets read loop wrap opening closing) :
    Written value? [byte opening, byte closing] (wrap []) := by
  apply Written.of_value (b := byte opening) rfl brackets.visible.1 brackets.visible.2
  intro fuel rest _ _
  have shut : isGap (byte closing) = false := by
    rcases brackets.close with close | close <;> rw [close] <;> decide
  change value? (fuel + 1) (byte opening :: byte closing :: rest) = _
  rw [brackets.opened, skip_visible shut]
  simp

theorem Brackets.block_written (brackets : Brackets read loop wrap opening closing)
    {es : List (Bytes × α)} (all : ∀ e ∈ es, Written read e.1 e.2) (depth : Nat) :
    Written value? (block depth opening closing (es.map Prod.fst)) (wrap (es.map Prod.snd)) := by
  cases es with
  | nil => exact brackets.empty_written
  | cons e es =>
    obtain ⟨first, all⟩ := List.forall_mem_cons.mp all
    rw [block_cons]
    apply Written.of_value rfl brackets.visible.1 brackets.visible.2
    intro fuel rest enough _
    have size : 2 * (e.1 ++ others (lineGap (depth + 1)) es).length < fuel := by
      simp only [List.length_cons, List.length_append] at enough ⊢
      omega
    have inside := brackets.loop_reads (gaps_line (depth + 1)) (gaps_line depth) rest first all size
      gaps_nil []
    rw [List.cons_append, brackets.opened, List.append_assoc, List.append_assoc,
      first.skip_gaps (gaps_line (depth + 1)), first.head_ne brackets.close,
      if_neg Bool.false_ne_true, List.append_assoc, List.append_assoc]
    exact inside

def member? (fuel : Nat) (s : Bytes) : Option ((Bytes × Json) × Bytes) :=
  match string? (skip s) with
  | none => none
  | some (k, rest) =>
    match skip rest with
    | [] => none
    | c :: after =>
      if c == byte ':' then (value? fuel after).map fun r => ((k, r.1), r.2) else none

theorem items_brackets : Brackets value? items? Json.list '[' ']' where
  visible := by decide
  close := .inl rfl
  opened := value?_list
  more acc read := by
    rw [items?.eq_def]
    dsimp only
    rw [read]
    rfl
  last acc gaps read := by
    rw [items?.eq_def]
    dsimp only
    rw [read]
    dsimp only
    rw [skip_gaps gaps, skip_visible (by decide)]
    rfl

theorem members_eq (fuel : Nat) (acc : List (Bytes × Json)) (s : Bytes) :
    members? (fuel + 1) acc s =
      match member? fuel s with
      | none => none
      | some (m, rest) =>
        match skip rest with
        | b :: after =>
          if b == byte ',' then members? fuel (m :: acc) after
          else if b == byte '}' then some (.object (m :: acc).reverse, after)
          else none
        | [] => none := by
  rw [members?.eq_def, member?]
  dsimp only
  cases string? (skip s) with
  | none => rfl
  | some r =>
    dsimp only
    cases skip r.2 with
    | nil => rfl
    | cons c after =>
      dsimp only
      split
      · cases value? fuel after <;> rfl
      · rfl

theorem members_brackets : Brackets member? members? Json.object '{' '}' where
  visible := by decide
  close := .inr rfl
  opened := value?_object
  more acc read := by
    rw [members_eq, read]
    rfl
  last acc gaps read := by
    rw [members_eq, read]
    dsimp only
    rw [skip_gaps gaps, skip_visible (by decide)]
    rfl

theorem member_written (e : Escaping) {k t : Bytes} {j : Json} (valid : isValid k = true)
    (written : Written value? t j) :
    Written member? (stringText e k ++ Bytes.of ": " ++ t) (k, j) := by
  refine ⟨⟨byte '"', _, rfl, by decide, by decide, by decide⟩, ?_⟩
  intro fuel gap rest enough gaps ends
  have size : 2 * t.length ≤ fuel := by
    rw [List.length_append] at enough
    omega
  have colon : Bytes.of ": " = [byte ':', byte ' '] := by decide
  have key (s : Bytes) : string? (skip (gap ++ (stringText e k ++ s))) = some (k, s) := by
    rw [skip_gaps gaps, ← string?_stringText e valid s]
    rfl
  have blank : Gaps [byte ' '] := List.forall_mem_singleton.mpr (by decide)
  have value := written.reads fuel [byte ' '] rest size blank ends
  rw [member?, List.append_assoc, List.append_assoc, key]
  dsimp only
  rw [colon, List.cons_append, skip_visible (by decide)]
  dsimp only
  rw [if_pos (by decide), value]
  rfl

end Brackets

/-- Values that can be told from their text: whole numbers and valid texts. -/
inductive Legible : Json → Prop
  | null : Legible .null
  | bool (b : Bool) : Legible (.bool b)
  | int (n : Int) : Legible (.int n)
  | text {s : Bytes} (valid : isValid s = true) : Legible (.text s)
  | list {js : List Json} (items : ∀ j ∈ js, Legible j) : Legible (.list js)
  | object {ms : List (Bytes × Json)} (keys : ∀ m ∈ ms, isValid m.1 = true)
      (values : ∀ m ∈ ms, Legible m.2) : Legible (.object ms)

theorem indentedItems_eq (e : Escaping) (depth : Nat) (js : List Json) :
    indentedItems e depth js = js.map (indented e depth) := by
  induction js with
  | nil => rfl
  | cons j js ih => rw [indentedItems, ih, List.map_cons]

theorem indentedMembers_eq (e : Escaping) (depth : Nat) (ms : List (Bytes × Json)) :
    indentedMembers e depth ms =
      ms.map fun m => stringText e m.1 ++ Bytes.of ": " ++ indented e depth m.2 := by
  induction ms with
  | nil => rfl
  | cons m ms ih => rw [indentedMembers, ih, List.map_cons]

theorem Legible.written {j : Json} (legible : Legible j) (e : Escaping) (depth : Nat) :
    Written value? (indented e depth j) j := by
  induction legible generalizing depth with
  | null => exact null_written
  | bool b => exact bool_written b
  | int n => exact int_written n
  | text valid => exact text_written e valid
  | @list js _ ih =>
    have all : ∀ t ∈ js.map (fun j => (indented e (depth + 1) j, j)), Written value? t.1 t.2 := by
      intro t member
      obtain ⟨j, inside, rfl⟩ := List.mem_map.mp member
      exact ih j inside (depth + 1)
    have written := items_brackets.block_written all depth
    simpa [indented, indentedItems_eq, Function.comp_def] using written
  | @object ms keys _ ih =>
    have all : ∀ t ∈ ms.map (fun m =>
        (stringText e m.1 ++ Bytes.of ": " ++ indented e (depth + 1) m.2, m)),
        Written member? t.1 t.2 := by
      intro t member
      obtain ⟨m, inside, rfl⟩ := List.mem_map.mp member
      exact member_written e (keys m inside) (ih m inside (depth + 1))
    have written := members_brackets.block_written all depth
    simpa [indented, indentedMembers_eq, Function.comp_def] using written

theorem read?_pretty {j : Json} (legible : Legible j) : read? j.pretty = some j := by
  have ends : Ends [byte '\n'] := by
    intro b head
    cases Option.some.inj head
    exact .inl (by decide)
  have enough : 2 * (indented guarded 0 j).length ≤ 2 * j.pretty.length + 2 := by
    rw [pretty, List.length_append]
    omega
  have value := (legible.written guarded 0).reads (2 * j.pretty.length + 2) [] [byte '\n'] enough
    gaps_nil ends
  rw [List.nil_append, ← pretty] at value
  rw [read?, value]
  rfl

end SpanGauge.Json
