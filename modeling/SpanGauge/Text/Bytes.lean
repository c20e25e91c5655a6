/-! Raw text. Sources, paths and messages are byte strings, because a source
file need not be valid in any encoding and lengths are counted in bytes. -/
namespace SpanGauge

abbrev Bytes := List UInt8

abbrev byte (c : Char) : UInt8 := c.toUInt8

namespace Bytes

def of (s : String) : Bytes := s.toUTF8.data.toList

def startsWith (s p : Bytes) : Bool := p.isPrefixOf s
def endsWith (s p : Bytes) : Bool := p.isSuffixOf s

/-- The text without the leading `p`, or unchanged when it does not start with `p`. -/
def dropLead (s p : Bytes) : Bytes := if p.isPrefixOf s then s.drop p.length else s

/-- The text without the trailing `p`, or unchanged when it does not end in `p`. -/
def dropTrail (s p : Bytes) : Bytes :=
  if p.isSuffixOf s then s.take (s.length - p.length) else s

/-- Pieces between the occurrences of one byte; there is always at least one. -/
def splitAt (sep : UInt8) (s : Bytes) : List Bytes :=
  let r := s.foldl
    (fun (acc : List Bytes × Bytes) b =>
      if b = sep then (acc.2.reverse :: acc.1, []) else (acc.1, b :: acc.2)) ([], [])
  (r.2.reverse :: r.1).reverse

def join (sep : Bytes) (parts : List Bytes) : Bytes := (parts.intersperse sep).flatten

def contains (s p : Bytes) : Bool :=
  match s with
  | [] => p.isEmpty
  | _ :: rest => p.isPrefixOf s || contains rest p

def has (s : Bytes) (b : UInt8) : Bool := s.any (· == b)

def splitLast? (sep : UInt8) (s : Bytes) : Option (Bytes × Bytes) :=
  if s.has sep then
    let after := (s.reverse.takeWhile (· != sep)).reverse
    some (s.take (s.length - after.length - 1), after)
  else none

def splitFirst? (sep : UInt8) (s : Bytes) : Option (Bytes × Bytes) :=
  if s.has sep then
    let before := s.takeWhile (· != sep)
    some (before, s.drop (before.length + 1))
  else none

/-- Byte order: the first difference decides, a proper beginning comes first. -/
def cmp : Bytes → Bytes → Ordering
  | [], [] => .eq
  | [], _ :: _ => .lt
  | _ :: _, [] => .gt
  | a :: s, b :: t => if a < b then .lt else if b < a then .gt else cmp s t

def lt (s t : Bytes) : Bool := cmp s t == .lt
def le (s t : Bytes) : Bool := cmp s t != .gt

def replicate (n : Nat) (c : Char) : Bytes := List.replicate n (byte c)

def isDigit (b : UInt8) : Bool := byte '0' ≤ b && b ≤ byte '9'
def isUpper (b : UInt8) : Bool := byte 'A' ≤ b && b ≤ byte 'Z'
def isLower (b : UInt8) : Bool := byte 'a' ≤ b && b ≤ byte 'z'
def isLetter (b : UInt8) : Bool := isUpper b || isLower b

def upperAscii (s : Bytes) : Bytes := s.map fun b => if isLower b then b - 32 else b

end Bytes

def decimal (n : Int) : Bytes := Bytes.of (toString n)

end SpanGauge
