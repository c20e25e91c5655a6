import SpanGauge.Ignore.Piece

/-! From the text of an ignore pattern to its pieces, by way of an expression text.
Wildcards become fixed expressions, bracket expressions are copied as they stand,
and every other byte becomes the character of that number. A bracket expression that
does not end where its bracket is closed goes on into what follows. -/
namespace SpanGauge.Ignore

def foldersText : List Char := "(?:.*/)?".toList
def anyText : List Char := ".*".toList
def componentText : List Char := "[^/]*".toList
def singleText : List Char := "[^/]".toList

def isMeta (c : Char) : Bool := "\\.+*?()|[]\x7b\x7d^$".toList.contains c

def quoted (b : UInt8) : List Char :=
  let c := Char.ofNat b.toNat
  if isMeta c then ['\\', c] else [c]

/-- The content of a bracket: an exclamation mark at its front is a caret. -/
def bracketText (content : Bytes) : Option (List Char) :=
  let cs := (Text.runes content)
  if cs.any Text.Rune.broken then none
  else
    match cs.map Text.Rune.char with
    | '!' :: rest => some ('[' :: '^' :: rest ++ [']'])
    | all => some ('[' :: all ++ [']'])

/-- The expression text of a glob, behind what is already written, the latest character
first; none when a bracket holds ill-formed bytes. -/
def expression? : Nat → List Char → Bytes → Option (List Char)
  | 0, acc, _ => some acc.reverse
  | _ + 1, acc, [] => some acc.reverse
  | fuel + 1, acc, b :: rest =>
    if Bytes.startsWith (b :: rest) (Bytes.of "**/") then
      expression? fuel (foldersText.reverse ++ acc) (rest.drop 2)
    else if Bytes.startsWith (b :: rest) (Bytes.of "**") then
      expression? fuel (anyText.reverse ++ acc) (rest.drop 1)
    else if b == byte '*' then expression? fuel (componentText.reverse ++ acc) rest
    else if b == byte '?' then expression? fuel (singleText.reverse ++ acc) rest
    else if b == byte '[' then
      match Bytes.splitFirst? (byte ']') rest with
      | none => expression? fuel ((quoted b).reverse ++ acc) rest
      | some (content, after) =>
        match bracketText content with
        | some t => expression? fuel (t.reverse ++ acc) after
        | none => none
    else expression? fuel ((quoted b).reverse ++ acc) rest

def pieces? : Nat → List Char → List Piece → Option (List Piece)
  | 0, _, _ => none
  | _ + 1, [], acc => some acc.reverse
  | fuel + 1, c :: rest, acc =>
    if c == '(' then pieces? fuel ((c :: rest).drop foldersText.length) (.folders :: acc)
    else if c == '.' then pieces? fuel (rest.drop 1) (.run Piece.notFeed :: acc)
    else if c == '[' then
      match CharSet.read? rest with
      | none => none
      | some (s, '*' :: after) => pieces? fuel after (.run s :: acc)
      | some (s, after) => pieces? fuel after (.one s :: acc)
    else if c == '\\' then
      match rest with
      | [] => none
      | d :: after => pieces? fuel after (.one (CharSet.only d) :: acc)
    else pieces? fuel rest (.one (CharSet.only c) :: acc)

def compile? (glob : Bytes) : Option (List Piece) :=
  match expression? glob.length [] glob with
  | some text => pieces? (text.length + 1) text []
  | none => none

end SpanGauge.Ignore
