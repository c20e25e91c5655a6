import SpanGauge.Text.Bytes

/-! Whole numbers in texts. A number may carry a sign and a base mark (`0x`, `0o`,
`0b`, or a leading zero for octal), and single underscores between digits. -/
namespace SpanGauge.Text

inductive NumberFault where
  | malformed
  | outOfRange
  deriving DecidableEq, Repr

def NumberFault.message : NumberFault → Bytes
  | .malformed => Bytes.of "invalid syntax"
  | .outOfRange => Bytes.of "value out of range"

def lowerByte (b : UInt8) : UInt8 := if Bytes.isUpper b then b + 32 else b

def digitValue? (b : UInt8) : Option Nat :=
  if Bytes.isDigit b then some (b.toNat - 48)
  else if Bytes.isLower (lowerByte b) then some ((lowerByte b).toNat - 87)
  else none

def baseMark (s : Bytes) : Nat × Bytes :=
  match s with
  | a :: b :: c :: rest =>
    if a == byte '0' then
      if lowerByte b == byte 'b' then (2, c :: rest)
      else if lowerByte b == byte 'o' then (8, c :: rest)
      else if lowerByte b == byte 'x' then (16, c :: rest)
      else (8, b :: c :: rest)
    else (10, s)
  | a :: rest => if a == byte '0' then (8, rest) else (10, s)
  | [] => (10, [])

def maxWord : Nat := 18446744073709551615

/-- Reads digits up to the first byte that is none, or that makes the number too large. -/
def digits (base : Nat) (underscores : Bool) : Nat → Bytes → Except NumberFault Nat
  | v, [] => .ok v
  | v, b :: rest =>
    if b == byte '_' && underscores then digits base underscores v rest
    else
      match digitValue? b with
      | none => .error .malformed
      | some d =>
        if base ≤ d then .error .malformed
        else if maxWord < v * base + d then .error .outOfRange
        else digits base underscores (v * base + d) rest

/-- Underscores stand between digits, or between base mark and digit. -/
def underscoresFit (hex : Bool) : Char → Bytes → Bool
  | seen, [] => seen != '_'
  | seen, b :: rest =>
    if Bytes.isDigit b || (hex && byte 'a' ≤ lowerByte b && lowerByte b ≤ byte 'f') then
      underscoresFit hex '0' rest
    else if b == byte '_' then seen == '0' && underscoresFit hex '_' rest
    else seen != '_' && underscoresFit hex '!' rest

def dropSign (s : Bytes) : Bytes :=
  match s with
  | b :: rest => if b == byte '-' || b == byte '+' then rest else s
  | [] => []

def underscoresOk (s : Bytes) : Bool :=
  let t := dropSign s
  match t with
  | a :: b :: rest =>
    let m := lowerByte b
    if a == byte '0' && (m == byte 'b' || m == byte 'o' || m == byte 'x') then
      underscoresFit (m == byte 'x') '0' rest
    else underscoresFit false '^' t
  | _ => underscoresFit false '^' t

def word (s : Bytes) : Except NumberFault Nat :=
  if s.isEmpty then .error .malformed
  else
    let (base, rest) := baseMark s
    match digits base true 0 rest with
    | .error f => .error f
    | .ok v => if s.has (byte '_') && !underscoresOk s then .error .malformed else .ok v

def largest : Int := 9223372036854775807
def smallest : Int := -9223372036854775808

def wrap (n : Int) : Int := Int.bmod n 18446744073709551616

def signed (negative : Bool) (v : Nat) : Except NumberFault Int :=
  let n : Int := if negative then -v else v
  if smallest ≤ n ∧ n ≤ largest then .ok n else .error .outOfRange

def integer (s : Bytes) : Except NumberFault Int :=
  match word (dropSign s) with
  | .error f => .error f
  | .ok v => signed (s.head? == some (byte '-')) v

def integerIn (base : Nat) (s : Bytes) : Except NumberFault Int :=
  let t := dropSign s
  if t.isEmpty then .error .malformed
  else
    match digits base false 0 t with
    | .error f => .error f
    | .ok v => signed (s.head? == some (byte '-')) v

end SpanGauge.Text
