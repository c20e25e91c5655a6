import SpanGauge.Settings.Key
import SpanGauge.Text.Blank

/-! Reading files of variables: a name and a value on each line, where a value between quotes may
go on over more lines and others than single quotes bring in variables. A text in another encoding
than UTF-8 is read byte by byte, and a line may be of any length. -/
namespace SpanGauge.Dotenv
open Text

def isSpace (b : UInt8) : Bool := b == 9 || b == 10 || b == 12 || b == 13 || b == 32

def isKeyByte (b : UInt8) : Bool :=
  Bytes.isLetter b || Bytes.isDigit b || b == byte '_' || b == byte '.'

def isNameByte (b : UInt8) : Bool := Bytes.isUpper b || Bytes.isDigit b || b == byte '_'

/-- Lines end in a line feed, a carriage return, or both in a row. -/
def linesFrom (acc : Bytes) : Bytes → List Bytes
  | 13 :: 10 :: rest => acc.reverse :: linesFrom [] rest
  | b :: rest =>
    if b == 10 || b == 13 then acc.reverse :: linesFrom [] rest else linesFrom (b :: acc) rest
  | [] => [acc.reverse]

def beforeLast? (b : UInt8) (s : Bytes) : Option Bytes := (Bytes.splitLast? b s).map (·.1)

def openQuote? (line : Bytes) : Option UInt8 :=
  match (Bytes.splitFirst? (byte '=') line).orElse fun _ => Bytes.splitFirst? (byte ':') line with
  | some (_ :: _, rest) =>
    match trim rest with
    | q :: inside =>
      if q == byte '"' || q == byte '\'' then
        match beforeLast? q (trim inside) with
        | some before => if (q :: inside)[before.length]? == some (byte '\\') then some q else none
        | none => some q
      else none
    | [] => none
  | _ => none

/-- A line that goes on to the closing quote, with the lines behind it. -/
def join? (quote : UInt8) (line : Bytes) : List Bytes → Option (Bytes × List Bytes)
  | [] => none
  | l :: ls =>
    let whole := line ++ byte '\n' :: l
    match beforeLast? quote l with
    | some before =>
      if before.getLast? == some (byte '\\') then join? quote whole ls else some (whole, ls)
    | none => join? quote whole ls

def isTail (s : Bytes) : Bool :=
  match s.dropWhile isSpace with
  | [] => true
  | b :: rest => b == byte '#' && !Bytes.has rest (byte '\n')

/-- The value between quotes that leaves only a comment behind it: the longest that does. -/
def quotedValue? (quote : UInt8) (s : Bytes) : Option Bytes :=
  (((List.range s.length).reverse.filter fun i => 0 < i && s[i]? == some quote).find? fun i =>
    isTail (s.drop (i + 1))).map fun i => s.take (i + 1)

def valueText? (s : Bytes) : Option Bytes :=
  let quoted :=
    match s.head? with
    | some b => if b == byte '\'' || b == byte '"' then quotedValue? b s else none
    | none => none
  let plain := s.takeWhile fun b => b != byte '#' && b != byte '\n'
  quoted.orElse fun _ =>
    if !plain.isEmpty && isTail (s.drop plain.length) then some plain
    else if isTail s then some [] else none

/-- A name and its value from the text of a line. Behind an equals sign all blanks are passed over,
behind a colon as few as it takes. -/
def assignment? (s : Bytes) : Option (Bytes × Bytes) :=
  let key := s.takeWhile isKeyByte
  let rest := s.drop key.length
  if key.isEmpty then none
  else
    match rest.dropWhile isSpace, rest with
    | 61 :: after, _ => (valueText? (after.dropWhile isSpace)).map fun v => (key, v)
    | _, 58 :: after =>
      let blanks := (after.takeWhile isSpace).length
      ((List.range blanks).findSome? fun n => valueText? (after.drop (n + 1))).map fun v => (key, v)
    | _, _ => none

def line? (s : Bytes) : Option (Bytes × Bytes) :=
  let t := s.dropWhile isSpace
  let mark := Bytes.of "export"
  let exported :=
    if Bytes.startsWith t mark && ((t.drop mark.length).head?.map isSpace).getD false then
      assignment? ((t.drop mark.length).dropWhile isSpace)
    else none
  exported.orElse fun _ => assignment? t

/-- A backslash before any byte but a dollar sign is dropped. -/
def unescape : Bytes → Bytes
  | 92 :: 36 :: rest => 92 :: 36 :: unescape rest
  | 92 :: b :: rest => b :: unescape rest
  | b :: rest => b :: unescape rest
  | [] => []

/-- A backslash and the letter `n` or `r` are a line feed or a carriage return. -/
def letterEnds : Bytes → Bytes
  | 92 :: 110 :: rest => 10 :: letterEnds rest
  | 92 :: 114 :: rest => 13 :: letterEnds rest
  | b :: rest => b :: letterEnds rest
  | [] => []

/-- What a variable stands for: the environment comes before what the file has given so far. -/
def lookUp (e : Environment) (given : List (Bytes × Bytes)) (name : Bytes) : Bytes :=
  (((e ++ given).find? fun v => v.1 == name).map (·.2)).getD []

def reference (s : Bytes) : Bytes × Nat :=
  let open_ := s.head? == some 0x7B
  let rest := if open_ then s.tail else s
  let name := rest.takeWhile isNameByte
  let close := (rest.drop name.length).head? == some 0x7D
  (name, name.length + open_.toNat + close.toNat)

/-- Variables replaced by what they stand for; a backslash keeps a dollar sign. -/
def expand (e : Environment) (given : List (Bytes × Bytes)) : Nat → Bytes → Bytes
  | 0, s => s
  | _ + 1, [] => []
  | fuel + 1, b :: rest =>
    if b == byte '\\' && rest.head? == some (byte '$') then
      let (_, n) := reference rest.tail
      rest.take (n + 1) ++ expand e given fuel (rest.drop (n + 1))
    else if b == byte '$' then
      let (name, n) := reference rest
      (if name.isEmpty then b :: rest.take n else lookUp e given name) ++
        expand e given fuel (rest.drop n)
    else b :: expand e given fuel rest

def value (e : Environment) (given : List (Bytes × Bytes)) (text : Bytes) : Bytes :=
  let between (q : Char) : Bool :=
    1 < text.length && text.head? == some (byte q) && text.getLast? == some (byte q)
  let inner := text.tail.dropLast
  if between '\'' then inner
  else
    let plain := if between '"' then unescape (letterEnds inner) else text
    expand e given (plain.length + 1) plain

/-- The variables of the lines, a later one in place of an earlier one of its name. -/
def variables? (e : Environment) : Nat → List (Bytes × Bytes) → List Bytes →
    Option (List (Bytes × Bytes))
  | 0, _, _ => none
  | _ + 1, given, [] => some given
  | fuel + 1, given, l :: ls =>
    let line := trim l
    if line.isEmpty || line.head? == some (byte '#') then variables? e fuel given ls
    else
      match match openQuote? line with
        | some q => join? q line ls
        | none => some (line, ls) with
      | none => none
      | some (whole, rest) =>
        match line? whole with
        | none => none
        | some (key, text) =>
          let others := given.filter fun v => v.1 != key
          variables? e fuel ((key, value e given (trim text)) :: others) rest

def entries? (e : Environment) (text : Bytes) : Option (List (Bytes × Data)) :=
  let body := Bytes.dropLead text [0xEF, 0xBB, 0xBF]
  let lines := linesFrom [] body
  (variables? e (lines.length + 1) [] lines).map fun vs => vs.map fun v => (v.1, .text v.2)

end SpanGauge.Dotenv
