import SpanGauge.Text.Bytes

/-! Words of a shell command line: blanks part them, quotes keep them together, and a
dollar sign stands for the value of a variable. A line in which the output of a command or the
value of a sum is put in is not read. Words are not expanded to names of files or to home folders,
and neither assignments nor words of the grammar are told from others. -/
namespace SpanGauge.Shell

/-- A part of a word. The value of a variable outside quotes is split at blanks. -/
inductive Piece where
  | literal (b : UInt8)
  | value (name : Bytes) (quoted : Bool)
  deriving DecidableEq, Repr

abbrev Word := List Piece

inductive Token where
  | word (w : Word)
  | mark (b : UInt8)
  /-- A stream that is sent elsewhere. -/
  | redirect (stream : Nat) (isInput : Bool)
  deriving DecidableEq, Repr

inductive Mode where
  | plain
  | single
  | double
  | comment
  /-- Behind the start of a substitution, which is not followed to its end. -/
  | substitution
  deriving DecidableEq, Repr

/-- What has been read: the words so far, the latest first, and the word in progress with
its latest part first. -/
structure Reading where
  mode : Mode := .plain
  escaped : Bool := false
  /-- The name of a variable in progress, and whether it stands in braces. -/
  name : Option (Bytes × Bool) := none
  word : Option Word := none
  tokens : List Token := []
  deriving DecidableEq, Repr

namespace Reading

def push (r : Reading) (p : Piece) : Reading := { r with word := some (p :: r.word.getD []) }

def quote : UInt8 := byte '\''
def doubleQuote : UInt8 := byte '"'
def backslash : UInt8 := byte '\\'
def dollar : UInt8 := byte '$'
def feed : UInt8 := byte '\n'
def graveAccent : UInt8 := 96

def isBlank (b : UInt8) : Bool := b == byte ' ' || b == byte '\t'

def isMark (b : UInt8) : Bool :=
  b == byte ';' || b == byte '&' || b == byte '|' || b == feed || b == byte '(' || b == byte ')'

def close (r : Reading) : Reading :=
  match r.word with
  | some w => { r with word := none, tokens := .word w.reverse :: r.tokens }
  | none => r

def isRedirect (b : UInt8) : Bool := b == byte '>' || b == byte '<'

/-- A redirection; a digit right before it names the stream. -/
def redirect (r : Reading) (b : UInt8) : Reading :=
  let isInput := b == byte '<'
  let usual := if isInput then 0 else 1
  match r.word with
  | some [.literal d] =>
    if Bytes.isDigit d then
      { r with word := none, tokens := .redirect (d.toNat - 48) isInput :: r.tokens }
    else { r.close with tokens := .redirect usual isInput :: r.close.tokens }
  | _ => { r.close with tokens := .redirect usual isInput :: r.close.tokens }

def plainStep (r : Reading) (b : UInt8) : Reading :=
  if b == quote then { r with mode := .single, word := some (r.word.getD []) }
  else if b == doubleQuote then { r with mode := .double, word := some (r.word.getD []) }
  else if b == backslash then { r with escaped := true }
  else if b == dollar then { r with name := some ([], false) }
  else if b == graveAccent then { r with mode := .substitution }
  else if isBlank b then r.close
  else if isMark b then { r.close with tokens := .mark b :: r.close.tokens }
  else if isRedirect b then r.redirect b
  else if b == byte '#' && r.word.isNone then { r with mode := .comment }
  else r.push (.literal b)

def doubleStep (r : Reading) (b : UInt8) : Reading :=
  if b == doubleQuote then { r with mode := .plain }
  else if b == backslash then { r with escaped := true }
  else if b == dollar then { r with name := some ([], false) }
  else if b == graveAccent then { r with mode := .substitution }
  else r.push (.literal b)

/-- The byte after a backslash. Inside double quotes only some bytes are escaped. -/
def escapedStep (r : Reading) (b : UInt8) : Reading :=
  let r' := { r with escaped := false }
  if b == feed then r'
  else if r.mode = .double &&
      !(b == dollar || b == backslash || b == doubleQuote || b == graveAccent) then
    (r'.push (.literal backslash)).push (.literal b)
  else r'.push (.literal b)

def modeStep (r : Reading) (b : UInt8) : Reading :=
  match r.mode with
  | .single => if b == quote then { r with mode := .plain } else r.push (.literal b)
  | .double => r.doubleStep b
  | .comment =>
    if b == feed then { r with mode := .plain, tokens := .mark b :: r.tokens } else r
  | .substitution => r
  | .plain => r.plainStep b

def isOwnName (b : UInt8) : Bool := Bytes.isDigit b || Bytes.has (Bytes.of "$?#@*-!") b

def isNameByte (b : UInt8) : Bool := Bytes.isLetter b || Bytes.isDigit b || b == byte '_'

/-- Ends the variable in progress; a dollar sign without a name is itself. -/
def closeName (r : Reading) : Reading :=
  match r.name with
  | none => r
  | some (n, _) =>
    let r' := { r with name := none }
    if n.isEmpty then r'.push (.literal dollar) else r'.push (.value n.reverse (r.mode = .double))

def nameStep (r : Reading) (n : Bytes) (braced : Bool) (b : UInt8) : Reading :=
  if braced then
    if b == byte '}' then r.closeName else { r with name := some (b :: n, true) }
  else if n.isEmpty && b == byte '{' then { r with name := some ([], true) }
  else if n.isEmpty && b == byte '(' then { r with name := none, mode := .substitution }
  else if n.isEmpty && isOwnName b then
    { r with name := some ([b], false) }.closeName
  else if isNameByte b then { r with name := some (b :: n, false) }
  else r.closeName.modeStep b

def step (r : Reading) (b : UInt8) : Reading :=
  if r.escaped then r.escapedStep b
  else
    match r.name with
    | some (n, braced) => r.nameStep n braced b
    | none => r.modeStep b

end Reading

/-- The tokens of a command line, or none when a quote is left open or something is put in. -/
def tokens? (line : Bytes) : Option (List Token) :=
  let r := (line.foldl Reading.step {}).closeName
  if r.mode = .single || r.mode = .double || r.mode = .substitution then none
  else
    let s := if r.escaped then r.push (.literal Reading.backslash) else r
    some s.close.tokens.reverse

def literal? (w : Word) : Option Bytes :=
  w.mapM fun p =>
    match p with
    | .literal b => some b
    | .value _ _ => none

/-- Word splitting and quote removal of a line that is one command without variables. -/
def words? (line : Bytes) : Option (List Bytes) :=
  (tokens? line).bind fun ts =>
    ts.mapM fun t =>
      match t with
      | .word w => literal? w
      | _ => none

/-- A text between single quotes, in which a quote is closed, escaped and opened again. -/
def quoted (s : Bytes) : Bytes :=
  Reading.quote ::
    (s.flatMap fun b => if b == Reading.quote then Bytes.of "'\\''" else [b]) ++ [Reading.quote]

end SpanGauge.Shell
