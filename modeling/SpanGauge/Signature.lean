import SpanGauge.Text.Bytes
import SpanGauge.Pattern

/-! Signatures: the line forms that introduce a function. Each form is a lead, a
name and a tail; a line has a form when some beginning of it is a word of lead,
name and tail in this order. -/
namespace SpanGauge

inductive Signature.Kind where
  | declaration
  | arrow
  | method
  | objectMethod
  deriving DecidableEq, Repr

structure Signature where
  kind : Signature.Kind
  name : Bytes
  deriving DecidableEq, Repr

namespace Signature

def Kind.label : Option Kind → String
  | none => "none"
  | some .declaration => "declaration"
  | some .arrow => "arrow"
  | some .method => "method"
  | some .objectMethod => "object-method"

/-- White space inside a line form: tab, line feed, form feed, carriage return, space. -/
def isGap (b : UInt8) : Bool := b == 9 || b == 10 || b == 12 || b == 13 || b == 32

def isNameStart (b : UInt8) : Bool := Bytes.isLetter b || b == byte '_' || b == byte '$'
def isNamePart (b : UInt8) : Bool := isNameStart b || Bytes.isDigit b

/-- A name is a letter, underscore or dollar sign, then any of these and digits. -/
def IsName : Bytes → Prop
  | [] => False
  | b :: rest => isNameStart b = true ∧ ∀ c ∈ rest, isNamePart c = true

section Grammar
open Pattern

def gaps : Pattern UInt8 := .many isGap
def gap : Pattern UInt8 := some1 isGap
def keyword (s : String) : Pattern UInt8 := word (Bytes.of s)
def symbol (c : Char) : Pattern UInt8 := .one (· == byte c)
def identifier : Pattern UInt8 := .seq (.one isNameStart) (.many isNamePart)

def spaced (s : String) : Pattern UInt8 := .seq (keyword s) gap

/-- A bracketed text: everything up to the first closing parenthesis. -/
def parenthesised : Pattern UInt8 :=
  concat [symbol '(', .many (· != byte ')'), symbol ')']

def declarationLead : Pattern UInt8 :=
  concat [gaps, optional (.seq (spaced "export") (optional (spaced "default"))),
    optional (spaced "async"), keyword "function", gaps, optional (symbol '*'), gaps]

def declarationTail : Pattern UInt8 := .seq gaps (symbol '(')

def arrowLead : Pattern UInt8 :=
  concat [gaps, optional (spaced "export"),
    optional (.seq (choice [keyword "const", keyword "let", keyword "var"]) gap)]

def arrowTail : Pattern UInt8 :=
  concat [gaps, symbol '=', gaps, optional (spaced "async"), .alt parenthesised identifier, gaps,
    keyword "=>", gaps, symbol '{']

def modifiers : List String := ["static", "get", "set", "public", "private", "protected", "async"]

def methodLead : Pattern UInt8 :=
  .seq gaps (.rep (.seq (choice (modifiers.map keyword)) gap))

def methodTail : Pattern UInt8 :=
  concat [gaps, parenthesised, gaps,
    optional (concat [symbol ':', gaps, some1 fun b => b != byte '=' && b != byte '{']),
    symbol '{']

def objectMethodLead : Pattern UInt8 := gaps

def objectMethodTail : Pattern UInt8 :=
  concat [gaps, symbol ':', gaps, optional (spaced "async"),
    optional (concat [keyword "function", gaps, optional (symbol '*'), gaps]), symbol '(']

end Grammar

def controlWords : List Bytes :=
  ["if", "for", "while", "switch", "catch", "with", "function", "return", "else", "do", "try",
    "finally"].map Bytes.of

structure Form where
  kind : Kind
  lead : Pattern UInt8
  tail : Pattern UInt8
  refused : List Bytes

def forms : List Form :=
  [⟨.declaration, declarationLead, declarationTail, []⟩,
   ⟨.arrow, arrowLead, arrowTail, []⟩,
   ⟨.method, methodLead, methodTail, controlWords⟩,
   ⟨.objectMethod, objectMethodLead, objectMethodTail, []⟩]

/-- A line has a form under a name: some beginning of the line is lead, name and tail. -/
def Form.Fits (f : Form) (line nm : Bytes) : Prop :=
  ∃ u v rest, line = u ++ nm ++ v ++ rest ∧ f.lead.Derives u ∧ IsName nm ∧ f.tail.Derives v

/-- Reads a name to its last possible byte, and the tail after it. -/
def Form.nameAt (f : Form) : Bytes → Option Bytes
  | [] => none
  | b :: rest =>
    if isNameStart b then
      if f.tail.begins (rest.dropWhile isNamePart) then some (b :: rest.takeWhile isNamePart)
      else none
    else none

def Form.name? (f : Form) (line : Bytes) : Option Bytes := f.lead.run f.nameAt line

def Form.read (f : Form) (line : Bytes) : Option Signature :=
  match f.name? line with
  | some nm => if nm ∈ f.refused then none else some ⟨f.kind, nm⟩
  | none => none

def ofLine (line : Bytes) : Option Signature := forms.findSome? fun f => f.read line

end Signature

end SpanGauge
