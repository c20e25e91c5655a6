import SpanGauge.Text.Bytes

/-! The lexer looks at the bytes of a line and decides which braces are code. It
knows nothing of depth or of signatures. A string ends at its own quote unless a
backslash stands directly before it; a template is one opaque literal. -/
namespace SpanGauge

inductive Brace where
  | opening
  | closing
  deriving DecidableEq, Repr

namespace Lexer

inductive Mode where
  | plain
  | lineComment
  | blockComment
  | single
  | double
  | template
  deriving DecidableEq, Repr

end Lexer

/-- The lexer between two bytes. With `skip` set, the next byte is the second half
of a comment delimiter and is passed over. -/
structure Lexer where
  mode : Lexer.Mode := .plain
  skip : Bool := false
  deriving DecidableEq, Repr

namespace Lexer

def slash : UInt8 := byte '/'
def star : UInt8 := byte '*'
def backslash : UInt8 := byte '\\'
def quote : UInt8 := byte '\''
def quotes : UInt8 := byte '"'
def backquote : UInt8 := 96

def step (x : Lexer) (before : Option UInt8) (b : UInt8) (after : Option UInt8) :
    Lexer × Option Brace :=
  if x.skip then ({ x with skip := false }, none)
  else
    let escaped := before == some backslash
    match x.mode with
    | .lineComment => (x, none)
    | .blockComment =>
      if b == star && after == some slash then (⟨.plain, true⟩, none) else (x, none)
    | .template =>
      if b == backquote && !escaped then (⟨.plain, false⟩, none) else (x, none)
    | .single => if b == quote && !escaped then (⟨.plain, false⟩, none) else (x, none)
    | .double => if b == quotes && !escaped then (⟨.plain, false⟩, none) else (x, none)
    | .plain =>
      if b == slash && after == some slash then (⟨.lineComment, false⟩, none)
      else if b == slash && after == some star then (⟨.blockComment, true⟩, none)
      else if b == quote && !escaped then (⟨.single, false⟩, none)
      else if b == quotes && !escaped then (⟨.double, false⟩, none)
      else if b == backquote && !escaped then (⟨.template, false⟩, none)
      else if b == byte '{' then (x, some .opening)
      else if b == byte '}' then (x, some .closing)
      else (x, none)

/-- A line comment ends with its line. -/
def atLineStart (x : Lexer) : Lexer :=
  if x.mode = .lineComment then { x with mode := .plain } else x

def runOn (x : Lexer) (before : Option UInt8) (found : List Brace) : Bytes → Lexer × List Brace
  | [] => (x, found)
  | b :: rest =>
    match x.step before b rest.head? with
    | (y, some brace) => runOn y (some b) (brace :: found) rest
    | (y, none) => runOn y (some b) found rest

def line (x : Lexer) (bytes : Bytes) : Lexer × List Brace :=
  let r := x.atLineStart.runOn none [] bytes
  (r.1, r.2.reverse)

end Lexer

end SpanGauge
