import SpanGauge.Data
import SpanGauge.Text.Quoted

/-! Flags of a command line. Flags and arguments may stand in any order; short flags
can be grouped, and two dashes alone end the flags. -/
namespace SpanGauge.CommandLine
open Text

inductive Flag.Kind where
  | switch
  | whole
  | text
  | texts
  deriving DecidableEq, Repr

structure Flag where
  long : String
  short : Option Char := none
  kind : Flag.Kind
  usage : String
  deriving DecidableEq, Repr

inductive Flag.Value where
  | switch (b : Bool)
  | whole (n : Int)
  | text (s : Bytes)
  deriving DecidableEq, Repr

inductive Fault where
  | badForm (argument : Bytes)
  | unknown (name : Bytes)
  | unknownShort (letters : Bytes)
  | noValue (argument : Bytes)
  | noShortValue (letters : Bytes)
  | badValue (f : Flag) (value : Bytes) (reader : String) (cause : NumberFault)
  | argumentCount (wanted given : Nat)
  deriving DecidableEq, Repr

def Flag.names (f : Flag) : Bytes :=
  (match f.short with
   | some c => Bytes.of "-" ++ encode c ++ Bytes.of ", "
   | none => []) ++ Bytes.of "--" ++ Bytes.of f.long

def firstLetter (letters : Bytes) : Bytes := quotedChar (Char.ofNat (letters.headD 0).toNat)

def Fault.message : Fault → Bytes
  | .badForm a => Bytes.of "bad flag syntax: " ++ a
  | .unknown n => Bytes.of "unknown flag: --" ++ n
  | .unknownShort ls =>
    Bytes.of "unknown shorthand flag: " ++ firstLetter ls ++ Bytes.of " in -" ++ ls
  | .noValue a => Bytes.of "flag needs an argument: " ++ a
  | .noShortValue ls =>
    Bytes.of "flag needs an argument: " ++ firstLetter ls ++ Bytes.of " in -" ++ ls
  | .badValue f v reader cause =>
    Bytes.of "invalid argument " ++ quoted v ++ Bytes.of " for " ++ quoted f.names ++
      Bytes.of " flag: " ++ Bytes.of reader ++ Bytes.of ": parsing " ++ quoted v ++
      Bytes.of ": " ++ cause.message
  | .argumentCount wanted given =>
    Bytes.of "accepts " ++ decimal wanted ++ Bytes.of " arg(s), received " ++ decimal given

def Flag.read (f : Flag) (s : Bytes) : Except Fault Flag.Value :=
  match f.kind with
  | .switch =>
    match Data.boolOf? s with
    | some b => .ok (.switch b)
    | none => .error (.badValue f s "strconv.ParseBool" .malformed)
  | .whole =>
    match integer s with
    | .ok n => .ok (.whole n)
    | .error cause => .error (.badValue f s "strconv.ParseInt" cause)
  | .text | .texts => .ok (.text s)

structure Parsed where
  values : List (String × Flag.Value) := []
  arguments : List Bytes := []
  deriving DecidableEq, Repr

namespace Parsed

def all (p : Parsed) (long : String) : List Flag.Value :=
  (p.values.filter fun v => v.1 == long).map (·.2)

/-- The last value counts. -/
def last? (p : Parsed) (long : String) : Option Flag.Value := (p.all long).getLast?

def switched (p : Parsed) (long : String) : Bool := p.last? long == some (.switch true)

def text? (p : Parsed) (long : String) : Option Bytes :=
  match p.last? long with
  | some (.text s) => some s
  | _ => none

def texts (p : Parsed) (long : String) : List Bytes :=
  (p.all long).filterMap fun v =>
    match v with
    | .text s => some s
    | _ => none

def give (p : Parsed) (f : Flag) (s : Bytes) : Except Fault Parsed :=
  match f.read s with
  | .ok v => .ok { p with values := p.values ++ [(f.long, v)] }
  | .error e => .error e

end Parsed

def findLong? (flags : List Flag) (name : Bytes) : Option Flag :=
  flags.find? fun f => Bytes.of f.long == name

def findShort? (flags : List Flag) (b : UInt8) : Option Flag :=
  flags.find? fun f => (f.short.map byte) == some b

def yes : Bytes := Bytes.of "true"

/-- A flag with its long name: the value follows an equals sign or is the next argument,
and a switch needs none. -/
def longFlag (flags : List Flag) (argument : Bytes) (rest : List Bytes) (p : Parsed) :
    Except Fault (Parsed × List Bytes) :=
  let body := argument.drop 2
  if body.head? == some (byte '-') || body.head? == some (byte '=') then .error (.badForm argument)
  else
    let (name, value?) :=
      match Bytes.splitFirst? (byte '=') body with
      | some (n, v) => (n, some v)
      | none => (body, none)
    match findLong? flags name with
    | none => .error (.unknown name)
    | some f =>
      match value?, f.kind, rest with
      | some v, _, _ => (p.give f v).map fun q => (q, rest)
      | none, .switch, _ => (p.give f yes).map fun q => (q, rest)
      | none, _, v :: after => (p.give f v).map fun q => (q, after)
      | none, _, [] => .error (.noValue argument)

/-- A group of short flags. The first that takes a value takes the rest of the group, or
the next argument when nothing is left. -/
def shortFlags (flags : List Flag) : Bytes → List Bytes → Parsed → Except Fault (Parsed × List Bytes)
  | [], rest, p => .ok (p, rest)
  | b :: letters, rest, p =>
    match findShort? flags b with
    | none => .error (.unknownShort (b :: letters))
    | some f =>
      if letters.head? == some (byte '=') && 1 < letters.length then
        (p.give f letters.tail).map fun q => (q, rest)
      else if f.kind = .switch then
        match p.give f yes with
        | .ok q => shortFlags flags letters rest q
        | .error e => .error e
      else if !letters.isEmpty then (p.give f letters).map fun q => (q, rest)
      else
        match rest with
        | v :: after => (p.give f v).map fun q => (q, after)
        | [] => .error (.noShortValue [b])

def isFlag (a : Bytes) : Bool := a.head? == some (byte '-') && 1 < a.length
def isLong (a : Bytes) : Bool := Bytes.startsWith a (Bytes.of "--")
def isEnd (a : Bytes) : Bool := a == Bytes.of "--"

/-- Arguments meant for a test harness, which are passed over. -/
def isTestFlag (a : Bytes) : Bool := Bytes.startsWith a (Bytes.of "-test.")

def parseFrom (flags : List Flag) : Nat → List Bytes → Parsed → Except Fault Parsed
  | 0, _, p => .ok p
  | _, [], p => .ok p
  | fuel + 1, a :: rest, p =>
    if !isFlag a then parseFrom flags fuel rest { p with arguments := p.arguments ++ [a] }
    else if isEnd a then .ok { p with arguments := p.arguments ++ rest }
    else if isTestFlag a then parseFrom flags fuel rest p
    else
      match if isLong a then longFlag flags a rest p else shortFlags flags a.tail rest p with
      | .ok (q, after) => parseFrom flags fuel after q
      | .error e => .error e

def parse (flags : List Flag) (arguments : List Bytes) : Except Fault Parsed :=
  parseFrom flags arguments.length arguments {}

end SpanGauge.CommandLine
