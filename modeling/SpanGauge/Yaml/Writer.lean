import SpanGauge.Yaml.Scalar
import SpanGauge.Text.Quoted
import SpanGauge.Text.Base64

/-! YAML text of strings in a block mapping: plain where the text reads back as
itself, otherwise between quotes or as a literal block. -/
namespace SpanGauge.Yaml
open Text

def isShown (c : Char) : Bool :=
  let n := c.toNat
  n = 10 || (32 ≤ n && n ≤ 126) || (0xA0 ≤ n && n ≤ 0xFFFD && n ≠ 0xFEFF)

def isBreak (c : Char) : Bool :=
  let n := c.toNat
  n = 10 || n = 13 || n = 0x85 || n = 0x2028 || n = 0x2029

def isGap (c : Char) : Bool := c == ' ' || c == '\t'

structure Place where
  before : Option Char
  char : Char
  after : Option Char

def placesFrom (before : Option Char) : List Char → List Place
  | [] => []
  | c :: cs => ⟨before, c, cs.head?⟩ :: placesFrom (some c) cs

def Place.endsWord (p : Place) : Bool := (p.after.map isGap).getD true

def opensOther (c : Char) : Bool := "#,[]\x7b\x7d&*!|>'\"%@`".toList.contains c

def Place.isIndicator (p : Place) : Bool :=
  match p.before with
  | none => opensOther p.char || ((p.char == '?' || p.char == ':' || p.char == '-') && p.endsWord)
  | some b =>
    (p.char == ':' && p.endsWord) ||
      (p.char == '#' && (isGap b || isBreak b || b.toNat = 0))

structure Shape where
  plain : Bool
  single : Bool
  block : Bool
  deriving DecidableEq, Repr

def shape (cs : List Char) : Shape :=
  let ps := placesFrom none cs
  let marker := cs.take 3 == ['-', '-', '-'] || cs.take 3 == ['.', '.', '.']
  let indicator := marker || ps.any Place.isIndicator
  let tab := cs.any (· == '\t')
  let special := cs.any fun c => c != '\t' && !isShown c
  let edge (c : Option Char) : Bool := (c.map fun x => x == ' ' || isBreak x).getD false
  let breakSpace := ps.any fun p => p.char == ' ' && (p.before.map isBreak).getD false
  let spaceBreak := ps.any fun p => isBreak p.char && p.before == some ' '
  let single := !(breakSpace || spaceBreak || tab || special)
  { plain := single && !cs.any isBreak && !edge cs.head? && !edge cs.getLast? && !indicator
    single := single
    block := !(cs.getLast? == some ' ' || spaceBreak || special) }

/-- Numbers in base sixty, which older readers know. -/
def isSexagesimal (s : Bytes) : Bool :=
  let t := dropSign s
  let lead := t.takeWhile fun b => Bytes.isDigit b || b == byte '_'
  let group (g : Bytes) : Bool :=
    match g with
    | [d] => Bytes.isDigit d
    | [c, d] => byte '0' ≤ c && c ≤ byte '5' && Bytes.isDigit d
    | _ => false
  match t with
  | [] => false
  | b :: _ =>
    if !Bytes.isDigit b then false
    else
      match Bytes.splitAt (byte ':') (t.drop lead.length) with
      | [] :: g :: gs =>
        let all := g :: gs
        let last := all.getLast?.getD []
        let (stem, frac) :=
          match Bytes.splitFirst? (byte '.') last with
          | some (u, v) => (u, v)
          | none => (last, [])
        all.dropLast.all group && group stem &&
          frac.all fun c => Bytes.isDigit c || c == byte '_'
      | _ => false

def isOldBool (s : Bytes) : Bool :=
  Scalar.isOneOf ["y", "Y", "yes", "Yes", "YES", "on", "On", "ON", "n", "N", "no", "No", "NO",
    "off", "Off", "OFF"] s

def readsAsText (s : Bytes) : Bool :=
  (Scalar.ofPlain s).isText && !isSexagesimal s && !isOldBool s

def escapeLetter? (n : Nat) : Option Char :=
  match n with
  | 0 => some '0' | 7 => some 'a' | 8 => some 'b' | 9 => some 't' | 10 => some 'n'
  | 11 => some 'v' | 12 => some 'f' | 13 => some 'r' | 27 => some 'e' | 34 => some '"'
  | 92 => some '\\' | 0x85 => some 'N' | 0xA0 => some '_' | 0x2028 => some 'L'
  | 0x2029 => some 'P' | _ => none

def doubleChar (c : Char) : Bytes :=
  let n := c.toNat
  if isShown c && !isBreak c && c != '"' && c != '\\' then encode c
  else
    match escapeLetter? n with
    | some l => [byte '\\', byte l]
    | none =>
      if n ≤ 0xFF then Bytes.of "\\x" ++ hexPadded true n 2
      else if n ≤ 0xFFFF then Bytes.of "\\u" ++ hexPadded true n 4
      else Bytes.of "\\U" ++ hexPadded true n 8

def doubleQuoted (cs : List Char) : Bytes := byte '"' :: cs.flatMap doubleChar ++ [byte '"']

/-- Between single quotes a quote is doubled; after a line break the line is indented. -/
def singleBody (indent : Nat) (broken : Bool) : List Char → Bytes
  | [] => []
  | c :: cs =>
    if c == ' ' then byte ' ' :: singleBody indent broken cs
    else if isBreak c then encode c ++ singleBody indent true cs
    else
      (if broken then Bytes.replicate indent ' ' else []) ++
        (if c == '\'' then Bytes.of "''" else encode c) ++ singleBody indent false cs

def singleQuoted (indent : Nat) (cs : List Char) : Bytes :=
  byte '\'' :: singleBody indent false cs ++ [byte '\'']

/-- Lines of a literal block. The first line that is not empty brings its own line end
before it when none is there yet. -/
def blockBody (indent : Nat) (started broken : Bool) : List Char → Bytes
  | [] => []
  | c :: cs =>
    if isBreak c then encode c ++ blockBody indent true true cs
    else
      (if broken then (if started then [] else [byte '\n']) ++ Bytes.replicate indent ' ' else []) ++
        encode c ++ blockBody indent true false cs

/-- The marks after the bar: the indentation when the text begins with a blank, and what
happens to line ends at its end. -/
def blockMarks (cs : List Char) : Bytes :=
  (if (cs.head?.map fun c => c == ' ' || isBreak c).getD false then Bytes.of "2" else []) ++
    (match cs.reverse with
     | [] => Bytes.of "-"
     | [c] => Bytes.of (if isBreak c then "+" else "-")
     | c :: d :: _ => if !isBreak c then Bytes.of "-" else if isBreak d then Bytes.of "+" else [])

def literal (indent : Nat) (cs : List Char) : Bytes × Bool :=
  (byte '|' :: blockMarks cs ++ blockBody indent false true cs,
    (cs.getLast?.map isBreak).getD false)

/-- Lines of at most seventy digits when there is more than one line. -/
def chunked (s : Bytes) : Bytes :=
  if s.length < 70 then s
  else ((List.range ((s.length + 69) / 70)).map fun i =>
    (s.drop (70 * i)).take 70 ++ [byte '\n']).flatten

/-- A string as the value of a member, with the line end after it. Continuation lines
are indented by `indent` spaces. -/
def stringValue (indent : Nat) (s : Bytes) : Bytes :=
  let valid := isValid s
  let body := if valid then s else chunked (base64 s)
  let cs := chars body
  let sh := shape cs
  let tag := if valid then [] else Bytes.of "!!binary "
  let done (t : Bytes) : Bytes := tag ++ t ++ [byte '\n']
  if body.has (byte '\n') then
    if sh.block then
      let (t, ended) := literal indent cs
      tag ++ t ++ (if ended then [] else [byte '\n'])
    else done (doubleQuoted cs)
  else if !valid || readsAsText s then
    if sh.plain then done body
    else if sh.single then done (singleQuoted indent cs)
    else done (doubleQuoted cs)
  else done (doubleQuoted cs)

end SpanGauge.Yaml
