import SpanGauge.Proofs.Ignore.Marks
import SpanGauge.Proofs.Text.Lines
import SpanGauge.Proofs.Text.Encoding

/-! What the wildcards of an ignore pattern stand for. A pattern without brackets is a row of
tokens, each with the texts it generates. Its expression text is the tokens' own texts one
after the other, reading that text back gives one piece for each token, and the words of the
pieces are what the tokens generate. -/
namespace SpanGauge.Ignore

inductive Token where
  /-- Nothing, or any text that ends in a slash. -/
  | folders
  | anything
  /-- Any text without a slash. -/
  | component
  /-- One character other than a slash. -/
  | single
  | exact (c : Char)
  deriving DecidableEq, Repr

namespace Token

def read : List Char → List Token
  | [] => []
  | '*' :: '*' :: '/' :: rest => .folders :: read rest
  | '*' :: '*' :: rest => .anything :: read rest
  | '*' :: rest => .component :: read rest
  | '?' :: rest => .single :: read rest
  | c :: rest => .exact c :: read rest

def Generates : Token → List Char → Prop
  | .folders, w => w = [] ∨ ∃ t, w = t ++ ['/']
  | .anything, _ => True
  | .component, w => '/' ∉ w
  | .single, w => ∃ c, c ≠ '/' ∧ w = [c]
  | .exact c, w => w = [c]

def Generated : List Token → List Char → Prop
  | [], w => w = []
  | t :: ts, w => ∃ u v, w = u ++ v ∧ t.Generates u ∧ Generated ts v

def text : Token → List Char
  | .folders => foldersText
  | .anything => anyText
  | .component => componentText
  | .single => singleText
  | .exact c => if isMeta c then ['\\', c] else [c]

def piece : Token → Piece
  | .folders => .folders
  | .anything => .run Piece.notFeed
  | .component => .run (CharSet.except '/')
  | .single => .one (CharSet.except '/')
  | .exact c => .one (CharSet.only c)

section Read

variable {rest : List Char}

theorem read_folders : read ('*' :: '*' :: '/' :: rest) = .folders :: read rest := by
  rw [read]

theorem read_anything (other : rest.head? ≠ some '/') :
    read ('*' :: '*' :: rest) = .anything :: read rest := by
  cases rest with
  | nil => simp [read]
  | cons c rest =>
    rw [read]
    simpa using other

theorem read_component (other : rest.head? ≠ some '*') :
    read ('*' :: rest) = .component :: read rest := by
  cases rest with
  | nil => simp [read]
  | cons c rest =>
    rw [read]
    · simp_all
    · simp_all

theorem read_single : read ('?' :: rest) = .single :: read rest := by
  rw [read]

theorem read_exact {c : Char} (star : c ≠ '*') (mark : c ≠ '?') :
    read (c :: rest) = .exact c :: read rest := by
  rw [read]
  all_goals simp_all

end Read

theorem startsWith_self (b : UInt8) (s p : Bytes) :
    Bytes.startsWith (b :: s) (b :: p) = Bytes.startsWith s p := by
  simp [Bytes.startsWith, List.isPrefixOf]

theorem startsWith_other {s : Bytes} {b : UInt8} (other : s.head? ≠ some b) (p : Bytes) :
    Bytes.startsWith s (b :: p) = false := by
  cases s with
  | nil => rfl
  | cons c s =>
    have ne : (b == c) = false := beq_false_of_ne fun same => other (congrArg some same.symm)
    simp only [Bytes.startsWith, List.isPrefixOf, ne, Bool.false_and]

theorem head?_charOf {s : Bytes} {b : UInt8} :
    (s.map Text.charOf).head? = some (Text.charOf b) ↔ s.head? = some b := by
  rw [List.head?_map, Option.map_eq_some_iff]
  constructor
  · rintro ⟨c, first, same⟩
    rw [first, Text.charOf_inj.mp same]
  · exact fun first => ⟨b, first, rfl⟩

theorem expression?_step {b : UInt8} (plain : b ≠ byte '[') (rest : Bytes) :
    ∃ t rest', rest' <:+ rest ∧
      read ((b :: rest).map Text.charOf) = t :: read (rest'.map Text.charOf) ∧
      ∀ fuel acc, expression? (fuel + 1) acc (b :: rest) =
        expression? fuel (t.text.reverse ++ acc) rest' := by
  have folders : Bytes.of "**/" = [byte '*', byte '*', byte '/'] := by decide
  have stars : Bytes.of "**" = [byte '*', byte '*'] := by decide
  by_cases star : b = byte '*'
  · subst star
    by_cases second : rest.head? = some (byte '*')
    · obtain ⟨rest, rfl⟩ := List.head?_eq_some_iff.mp second
      by_cases slash : rest.head? = some (byte '/')
      · obtain ⟨rest, rfl⟩ := List.head?_eq_some_iff.mp slash
        refine ⟨.folders, rest, ⟨[byte '*', byte '/'], rfl⟩, read_folders, fun fuel acc => ?_⟩
        rw [expression?, folders, startsWith_self, startsWith_self, startsWith_self]
        rfl
      · refine ⟨.anything, rest, List.suffix_cons _ rest,
          read_anything fun same => slash (head?_charOf.mp same), fun fuel acc => ?_⟩
        rw [expression?, folders, stars, startsWith_self, startsWith_self, startsWith_other slash,
          startsWith_self, startsWith_self]
        rfl
    · refine ⟨.component, rest, List.suffix_refl rest,
        read_component fun same => second (head?_charOf.mp same), fun fuel acc => ?_⟩
      rw [expression?, folders, stars, startsWith_self, startsWith_other second, startsWith_self,
        startsWith_other second]
      rfl
  · have apart : (b :: rest).head? ≠ some (byte '*') := fun same => star (Option.some.inj same)
    by_cases mark : b = byte '?'
    · subst mark
      refine ⟨.single, rest, List.suffix_refl rest, read_single, fun fuel acc => ?_⟩
      rw [expression?, folders, stars, startsWith_other apart, startsWith_other apart]
      rfl
    · refine ⟨.exact (Text.charOf b), rest, List.suffix_refl rest, read_exact ?_ ?_,
        fun fuel acc => ?_⟩
      · exact fun same => star (Text.charOf_inj.mp same)
      · exact fun same => mark (Text.charOf_inj.mp same)
      · rw [expression?, folders, stars, startsWith_other apart, startsWith_other apart,
          beq_false_of_ne star, beq_false_of_ne mark, beq_false_of_ne plain]
        rfl

theorem expression?_eq {glob : Bytes} (plain : byte '[' ∉ glob) {fuel : Nat}
    (enough : glob.length ≤ fuel) (acc : List Char) :
    expression? fuel acc glob =
      some (acc.reverse ++ (read (glob.map Text.charOf)).flatMap text) := by
  induction fuel generalizing glob acc with
  | zero =>
    obtain rfl := List.length_eq_zero_iff.mp (Nat.le_zero.mp enough)
    simp [expression?, read]
  | succ fuel ih =>
    cases glob with
    | nil => simp [expression?, read]
    | cons b rest =>
      rw [List.mem_cons, not_or] at plain
      obtain ⟨t, rest', behind, reads, writes⟩ := expression?_step (Ne.symm plain.1) rest
      have shorter := behind.length_le
      rw [List.length_cons] at enough
      rw [writes, reads, ih (fun h => plain.2 (behind.subset h)) (by omega)]
      simp

theorem ne_of_not_meta {c d : Char} (plain : ¬ isMeta c = true) (special : isMeta d = true) :
    c ≠ d :=
  fun same => plain (same ▸ special)

theorem text_ne_nil (t : Token) : t.text ≠ [] := by
  cases t with
  | exact c =>
    rw [text]
    split <;> simp
  | _ => decide

/-- No token's text begins with a star, so none goes on with the text before it. -/
theorem text_unstarred (ts : List Token) : (ts.flatMap text).head? ≠ some '*' := by
  cases ts with
  | nil => simp
  | cons t ts =>
    rw [List.flatMap_cons]
    cases t with
    | exact c =>
      rw [text]
      split
      · simp
      · rename_i plain
        have ne : c ≠ '*' := ne_of_not_meta plain (by decide)
        simpa using ne
    | folders => exact fun same => absurd (Option.some.inj same) (by decide)
    | anything => exact fun same => absurd (Option.some.inj same) (by decide)
    | component => exact fun same => absurd (Option.some.inj same) (by decide)
    | single => exact fun same => absurd (Option.some.inj same) (by decide)

theorem pieces?_step (t : Token) {rest : List Char} (other : rest.head? ≠ some '*') (fuel : Nat)
    (acc : List Piece) :
    pieces? (fuel + 1) (t.text ++ rest) acc = pieces? fuel rest (t.piece :: acc) := by
  cases t with
  | folders => rfl
  | anything => rfl
  | component => rfl
  | single =>
    cases rest with
    | nil => rfl
    | cons c rest =>
      have ne : c ≠ '*' := fun same => other (congrArg some same)
      have set : CharSet.read? ('^' :: '/' :: ']' :: c :: rest) =
          some (CharSet.except '/', c :: rest) := rfl
      have reads : single.text ++ c :: rest = '[' :: '^' :: '/' :: ']' :: c :: rest := rfl
      simp [reads, pieces?, set, ne, piece]
  | exact c =>
    rw [text]
    split
    · rfl
    · rename_i plain
      have group : c ≠ '(' := ne_of_not_meta plain (by decide)
      have dot : c ≠ '.' := ne_of_not_meta plain (by decide)
      have bracket : c ≠ '[' := ne_of_not_meta plain (by decide)
      have escape : c ≠ '\\' := ne_of_not_meta plain (by decide)
      cases rest <;> simp [pieces?, group, dot, bracket, escape, piece]

theorem pieces?_eq (ts : List Token) {fuel : Nat} (enough : (ts.flatMap text).length < fuel)
    (acc : List Piece) :
    pieces? fuel (ts.flatMap text) acc = some (acc.reverse ++ ts.map piece) := by
  induction ts generalizing fuel acc with
  | nil =>
    cases fuel with
    | zero => cases enough
    | succ fuel => simp [pieces?]
  | cons t ts ih =>
    cases fuel with
    | zero => cases enough
    | succ fuel =>
      have some : 0 < t.text.length := List.length_pos_iff.mpr (text_ne_nil t)
      rw [List.flatMap_cons, List.length_append] at enough
      rw [List.flatMap_cons, pieces?_step t (text_unstarred ts), ih (by omega)]
      simp

theorem compile?_eq {glob : Bytes} (plain : byte '[' ∉ glob) :
    compile? glob = some ((read (glob.map Text.charOf)).map piece) := by
  rw [compile?, expression?_eq plain (Nat.le_refl _), List.reverse_nil, List.nil_append]
  exact pieces?_eq _ (Nat.lt_succ_self _) []

theorem forall_except {c : Char} {w : List Char} :
    (∀ d ∈ w, (CharSet.except c).has d = true) ↔ c ∉ w := by
  simp only [CharSet.except_has]
  constructor
  · exact fun all member => all c member rfl
  · exact fun none d member same => none (same ▸ member)

theorem derives_piece {t : Token} {w : List Char} (oneLine : '\n' ∉ w) :
    t.piece.pattern.Derives w ↔ t.Generates w := by
  cases t with
  | folders =>
    simp only [piece, Piece.pattern, Piece.notFeed, Generates, Pattern.derives_alt,
      Pattern.derives_seq, Pattern.derives_empty, Pattern.derives_many, Pattern.derives_one,
      forall_except, beq_iff_eq]
    constructor
    · rintro (⟨u, _, rfl, _, _, rfl, rfl⟩ | none)
      · exact .inr ⟨u, rfl⟩
      · exact .inl none
    · rintro (none | ⟨u, rfl⟩)
      · exact .inr none
      · exact .inl ⟨u, _, rfl, fun member => oneLine (List.mem_append_left _ member), _, rfl, rfl⟩
  | anything =>
    simp only [piece, Piece.pattern, Piece.notFeed, Generates, Pattern.derives_many,
      forall_except, oneLine, not_false_eq_true]
  | component => simp only [piece, Piece.pattern, Generates, Pattern.derives_many, forall_except]
  | single => simp only [piece, Piece.pattern, Generates, Pattern.derives_one, CharSet.except_has]
  | exact c => simp [piece, Piece.pattern, Generates]

theorem spelled_pieces {ts : List Token} {w : List Char} (oneLine : '\n' ∉ w) :
    Spelled (ts.map piece) w ↔ Generated ts w := by
  induction ts generalizing w with
  | nil => exact spelled_nil
  | cons t ts ih =>
    rw [List.map_cons, spelled_cons, Generated]
    constructor
    · rintro ⟨u, v, rfl, first, rest⟩
      rw [List.mem_append, not_or] at oneLine
      exact ⟨u, v, rfl, (derives_piece oneLine.1).mp first, (ih oneLine.2).mp rest⟩
    · rintro ⟨u, v, rfl, first, rest⟩
      rw [List.mem_append, not_or] at oneLine
      exact ⟨u, v, rfl, (derives_piece oneLine.1).mpr first, (ih oneLine.2).mpr rest⟩

end Token

def body (line : Bytes) : Bytes := Bytes.dropTrail (Bytes.dropLead line [byte '!']) [byte '/']

/-- A plain pattern: one line of ASCII text without brackets, with no white space at its
ends, not too long, no comment, and more than its exclamation mark and slash. -/
structure PlainLine (line : Bytes) : Prop where
  ascii : ∀ b ∈ line, b < 0x80
  oneLine : Text.feed ∉ line
  front : ∀ b, line.head? = some b → Text.isBlank (Text.charOf b) = false
  back : ∀ b, line.getLast? = some b → Text.isBlank (Text.charOf b) = false
  short : line.length < 65536
  unbracketed : byte '[' ∉ line
  comment : line.head? ≠ some (byte '#')
  more : body line ≠ []

/-- The tokens of a line: one slash in front of its body only anchors it. -/
def tokens (line : Bytes) : List Token :=
  Token.read (Text.chars (Bytes.dropLead (body line) [byte '/']))

def StartsBehind (line : Bytes) (before : List Char) : Prop :=
  before = [] ∨ byte '/' ∉ body line ∧ ∃ t, before = t ++ ['/']

/-- What a line says of a path: from some start, its tokens generate a part of the path up to
the end or up to a slash, except that a line with a slash at its end says nothing of what is
no folder and ends in such a part. -/
def Means (line : Bytes) (path : List Char) (folder : Bool) : Prop :=
  (∃ before part after, path = before ++ part ++ after ∧ StartsBehind line before ∧
    Token.Generated (tokens line) part ∧ (after = [] ∨ after.head? = some '/')) ∧
  ¬ (line.getLast? = some (byte '/') ∧ folder = false ∧
    ∃ before part, path = before ++ part ∧ StartsBehind line before ∧
      Token.Generated (tokens line) part)

theorem read?_eq (line : Bytes) :
    Line.read? line =
      if (body line).isEmpty then none
      else (compile? (Bytes.dropLead (body line) [byte '/'])).map fun ps =>
        ⟨line.head? == some (byte '!'),
          (Bytes.dropLead line [byte '!']).getLast? == some (byte '/'),
          Bytes.has (body line) (byte '/'), ps⟩ := by
  rw [Line.read?, body, Bytes.dropTrail_last, Bytes.dropLead_single line]

def patternOf (line : Bytes) : Bytes := Text.trim (Bytes.dropTrail line [byte '\r'])

theorem parse_line {line : Bytes} (oneLine : Text.feed ∉ line) :
    parse line = if longestLine ≤ line.length then .error .lineTooLong
      else .ok ⟨([patternOf line].filter fun p =>
        !p.isEmpty && p.head? != some (byte '#')).filterMap Line.read?⟩ := by
  have one : Bytes.splitAt (byte '\n') line = [line] :=
    (Bytes.splitAt_eq_splitOn _ line).trans (List.splitOn_eq_singleton oneLine)
  simp only [parse, one, List.any_cons, List.any_nil, Bool.or_false, decide_eq_true_eq,
    List.map_cons, List.map_nil, patternOf]

theorem parse_eq_ok {line : Bytes} {l : Line} (oneLine : Text.feed ∉ line)
    (short : line.length < longestLine) (same : patternOf line = line) (told : line ≠ [])
    (comment : line.head? ≠ some (byte '#')) (read : Line.read? line = some l) :
    parse line = .ok ⟨[l]⟩ := by
  rw [parse_line oneLine, if_neg (Nat.not_le.mpr short), same]
  simp [told, comment, read]

section Plain

variable {line : Bytes}

theorem mem_line_of_mem_body {b : UInt8} (member : b ∈ body line) : b ∈ line :=
  Bytes.mem_of_mem_dropLead (Bytes.mem_of_mem_dropTrail member)

def lineOf (line : Bytes) : Line where
  negated := line.head? == some (byte '!')
  foldersOnly := (Bytes.dropLead line [byte '!']).getLast? == some (byte '/')
  anchored := Bytes.has (body line) (byte '/')
  pieces := (tokens line).map Token.piece

theorem PlainLine.read?_eq_some (h : PlainLine line) : Line.read? line = some (lineOf line) := by
  have inside : ∀ b ∈ Bytes.dropLead (body line) [byte '/'], b ∈ line := fun b member =>
    mem_line_of_mem_body (Bytes.mem_of_mem_dropLead member)
  have some : (body line).isEmpty = false := by simpa using h.more
  have chars : Text.chars (Bytes.dropLead (body line) [byte '/']) =
      (Bytes.dropLead (body line) [byte '/']).map Text.charOf :=
    Text.chars_ascii fun b member => h.ascii b (inside b member)
  rw [read?_eq, some, Token.compile?_eq fun member => h.unbracketed (inside _ member), ← chars]
  rfl

theorem PlainLine.parse_eq_ok (h : PlainLine line) : parse line = .ok ⟨[lineOf line]⟩ := by
  have carriage : (line.getLast? == some (byte '\r')) = false := by
    refine beq_false_of_ne fun last => ?_
    have blank := h.back _ last
    revert blank
    decide
  have same : patternOf line = line := by
    rw [patternOf, Bytes.dropTrail_last, carriage]
    exact Text.trim_ascii h.ascii h.front h.back
  have some : line ≠ [] := by
    rintro rfl
    exact h.more rfl
  exact Ignore.parse_eq_ok h.oneLine h.short same some h.comment h.read?_eq_some

theorem PlainLine.foldersOnly_iff (h : PlainLine line) :
    (lineOf line).foldersOnly = true ↔ line.getLast? = some (byte '/') := by
  have rest : Bytes.dropLead line [byte '!'] ≠ [] := by
    intro none
    exact h.more (by rw [body, none]; rfl)
  rw [lineOf, beq_iff_eq]
  rw [Bytes.dropLead_single] at rest ⊢
  split
  · rename_i lead
    rw [if_pos lead] at rest
    cases line with
    | nil => cases lead
    | cons b tail =>
      obtain ⟨init, last, rfl⟩ := (List.eq_nil_or_concat tail).resolve_left rest
      simp [List.getLast?_cons]
  · exact Iff.rfl

theorem lineOf_begins {before : List Char} :
    (lineOf line).Begins before ↔ StartsBehind line before := by
  have floating : (lineOf line).anchored = false ↔ byte '/' ∉ body line := Bytes.has_eq_false
  rw [Line.Begins, StartsBehind, floating]

theorem ends_iff {after : List Char} (oneLine : '\n' ∉ after) :
    Ends after ↔ after = [] ∨ after.head? = some '/' := by
  cases after with
  | nil => simp [Ends]
  | cons c rest => simp_all [Ends]

theorem PlainLine.applies_iff (h : PlainLine line) {path : List Char} (oneLine : '\n' ∉ path)
    (folder : Bool) : (lineOf line).applies path folder = true ↔ Means line path folder := by
  have pieces : (lineOf line).pieces = (tokens line).map Token.piece := rfl
  rw [Line.applies_iff, Means, h.foldersOnly_iff, pieces]
  refine and_congr ?_ (not_congr (and_congr_right fun _ => and_congr_right fun _ => ?_))
  · refine exists_congr fun before => exists_congr fun part => exists_congr fun after =>
      and_congr_right fun split => ?_
    rw [split, List.mem_append, List.mem_append, not_or, not_or] at oneLine
    rw [lineOf_begins, Token.spelled_pieces oneLine.1.2, ends_iff oneLine.2]
  · refine exists_congr fun before => exists_congr fun part => and_congr_right fun split => ?_
    rw [split, List.mem_append, not_or] at oneLine
    rw [lineOf_begins, Token.spelled_pieces oneLine.2]

end Plain

theorem ignores_concat (lines : List Line) (l : Line) (path : Bytes) (folder : Bool) :
    ignores ⟨lines ++ [l]⟩ path folder =
      if l.applies (Text.chars (Bytes.dropLead path (Bytes.of "./"))) folder then !l.negated
      else ignores ⟨lines⟩ path folder := by
  rw [ignores, List.foldl_append]
  rfl

/-- A plain pattern line is kept as one pattern, and this applies to a path exactly when the
wildcards of the line say so. -/
theorem plain_line_means {line : Bytes} (plain : PlainLine line) :
    ∃ l : Line, parse line = .ok ⟨[l]⟩ ∧ (l.negated = true ↔ line.head? = some (byte '!')) ∧
      ∀ (path : Bytes) (folder : Bool), Text.feed ∉ path →
        Bytes.startsWith path (Bytes.of "./") = false →
        (l.applies (Text.chars path) folder = true ↔ Means line (Text.chars path) folder) ∧
        ∀ earlier : List Line,
          (Means line (Text.chars path) folder →
            ignores ⟨earlier ++ [l]⟩ path folder = !l.negated) ∧
          (¬ Means line (Text.chars path) folder →
            ignores ⟨earlier ++ [l]⟩ path folder = ignores ⟨earlier⟩ path folder) := by
  refine ⟨lineOf line, plain.parse_eq_ok, beq_iff_eq, ?_⟩
  intro path folder oneLine bare
  have applies := plain.applies_iff (fun member => oneLine (Text.feed_of_mem_chars member)) folder
  have whole : Bytes.dropLead path (Bytes.of "./") = path := if_neg (ne_true_of_eq_false bare)
  refine ⟨applies, fun earlier => ?_⟩
  rw [ignores_concat, whole, ← applies]
  constructor
  · exact fun holds => if_pos holds
  · exact fun fails => if_neg fails

def wildLine : Bytes := Bytes.of "!a/**/*?/"

theorem wildLine_plain : PlainLine wildLine where
  ascii := by decide +kernel
  oneLine := by decide
  front := by
    intro b first
    obtain rfl : byte '!' = b := Option.some.inj first
    decide
  back := by
    intro b last
    obtain rfl : byte '/' = b := Option.some.inj last
    decide
  short := by decide
  unbracketed := by decide
  comment := by decide
  more := by decide

theorem wildLine_means :
    PlainLine wildLine ∧ Text.feed ∉ Bytes.of "a/b/cd" ∧
    Bytes.startsWith (Bytes.of "a/b/cd") (Bytes.of "./") = false ∧
    ∃ l : Line, parse wildLine = .ok ⟨[l]⟩ ∧ l.negated = true ∧
      l.applies (Text.chars (Bytes.of "a/b/cd")) true = true ∧
      l.applies (Text.chars (Bytes.of "a/b/cd")) false = false ∧
      ∀ earlier, ignores ⟨earlier ++ [l]⟩ (Bytes.of "a/b/cd") true = false := by
  have oneLine : Text.feed ∉ Bytes.of "a/b/cd" := by decide
  have bare : Bytes.startsWith (Bytes.of "a/b/cd") (Bytes.of "./") = false := by decide
  have row : tokens wildLine = [.exact 'a', .exact '/', .folders, .component, .single] := by
    decide +kernel
  have path : Text.chars (Bytes.of "a/b/cd") = "a/b/cd".toList := by decide +kernel
  have made : Token.Generated (tokens wildLine) "a/b/cd".toList := by
    rw [row]
    exact ⟨['a'], _, rfl, rfl, ['/'], _, rfl, rfl, ['b', '/'], _, rfl, .inr ⟨['b'], rfl⟩,
      ['c'], _, rfl, (by decide : '/' ∉ ['c']), ['d'], _, rfl, ⟨'d', by decide, rfl⟩, rfl⟩
  have means : Means wildLine (Text.chars (Bytes.of "a/b/cd")) true :=
    ⟨⟨[], _, [], by simp [path], .inl rfl, made, .inl rfl⟩, by simp⟩
  obtain ⟨l, parsed, negated, applies⟩ := plain_line_means wildLine_plain
  refine ⟨wildLine_plain, oneLine, bare, l, parsed, negated.mpr rfl,
    (applies _ true oneLine bare).1.mpr means, ?_, fun earlier => ?_⟩
  · rw [← Bool.not_eq_true, (applies _ false oneLine bare).1]
    exact fun means => means.2 ⟨rfl, rfl, [], _, path, .inl rfl, made⟩
  · rw [((applies _ true oneLine bare).2 earlier).1 means, negated.mpr rfl]
    rfl

end SpanGauge.Ignore
