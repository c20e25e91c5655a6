import SpanGauge.Json

/-! Reading JSON texts. A text holds one value with blanks around it. -/
namespace SpanGauge.Json
open Text

def isGap (b : UInt8) : Bool := b == byte ' ' || b == 9 || b == 10 || b == 13

def skip (s : Bytes) : Bytes := s.dropWhile isGap

def hexValue? (b : UInt8) : Option Nat :=
  if Bytes.isDigit b then some (b.toNat - 48)
  else if byte 'a' ≤ b && b ≤ byte 'f' then some (b.toNat - 87)
  else if byte 'A' ≤ b && b ≤ byte 'F' then some (b.toNat - 55)
  else none

def unit? (s : Bytes) : Option Nat :=
  match s with
  | [a, b, c, d] =>
    match hexValue? a, hexValue? b, hexValue? c, hexValue? d with
    | some w, some x, some y, some z => some (((w * 16 + x) * 16 + y) * 16 + z)
    | _, _, _, _ => none
  | _ => none

def isHigh (n : Nat) : Bool := 0xD800 ≤ n && n ≤ 0xDBFF
def isLow (n : Nat) : Bool := 0xDC00 ≤ n && n ≤ 0xDFFF

/-- The character of an escaped unit, and how many bytes of `rest` belong to it: a high
surrogate needs an escaped low one behind it, and one that stands alone is replaced. -/
def escapedChar (n : Nat) (rest : Bytes) : Char × Nat :=
  if isHigh n then
    match if rest.take 2 == Bytes.of "\\u" then unit? ((rest.drop 2).take 4) else none with
    | some m =>
      if isLow m then (Char.ofNat (0x10000 + (n - 0xD800) * 1024 + (m - 0xDC00)), 6)
      else (replacement, 0)
    | none => (replacement, 0)
  else if isLow n then (replacement, 0)
  else (Char.ofNat n, 0)

def letterEscape? (b : UInt8) : Option UInt8 :=
  if b == byte '"' || b == byte '\\' || b == byte '/' then some b
  else if b == byte 'b' then some 8
  else if b == byte 'f' then some 12
  else if b == byte 'n' then some 10
  else if b == byte 'r' then some 13
  else if b == byte 't' then some 9
  else none

/-- The inside of a string up to its closing quote, the latest byte of `acc` first. -/
def stringBody? : Nat → Bytes → Bytes → Option (Bytes × Bytes)
  | 0, _, _ => none
  | fuel + 1, acc, s =>
    match s with
    | [] => none
    | b :: rest =>
      if b == byte '"' then some (acc.reverse, rest)
      else if b < 32 then none
      else if b == byte '\\' then
        match rest with
        | [] => none
        | e :: after =>
          if e == byte 'u' then
            match unit? (after.take 4) with
            | some n =>
              let (c, used) := escapedChar n (after.drop 4)
              stringBody? fuel ((encode c).reverse ++ acc) (after.drop (4 + used))
            | none => none
          else
            match letterEscape? e with
            | some c => stringBody? fuel (c :: acc) after
            | none => none
      else stringBody? fuel (b :: acc) rest

/-- Ill-formed bytes are replaced. -/
def wellFormed (s : Bytes) : Bytes := ofChars (chars s)

def string? (s : Bytes) : Option (Bytes × Bytes) :=
  match s with
  | b :: rest =>
    if b == byte '"' then
      (stringBody? (rest.length + 1) [] rest).map fun r => (wellFormed r.1, r.2)
    else none
  | [] => none

def numberLength? (s : Bytes) : Option Nat :=
  let sign := if s.head? == some (byte '-') then 1 else 0
  let whole := (s.drop sign).takeWhile Bytes.isDigit
  if whole.isEmpty then none
  else
    let first := if whole.head? == some (byte '0') then 1 else whole.length
    let s1 := s.drop (sign + first)
    let places :=
      if s1.head? == some (byte '.') then some (s1.tail.takeWhile Bytes.isDigit).length else none
    match places with
    | some 0 => none
    | _ =>
      let n1 := sign + first + (places.map (· + 1)).getD 0
      let s2 := s.drop n1
      if s2.head? == some (byte 'e') || s2.head? == some (byte 'E') then
        let signed := s2.tail.head? == some (byte '+') || s2.tail.head? == some (byte '-')
        let mark := if signed then 2 else 1
        let power := (s2.drop mark).takeWhile Bytes.isDigit
        if power.isEmpty then none else some (n1 + mark + power.length)
      else some n1

def word? (s : Bytes) : Option (Json × Bytes) :=
  if Bytes.startsWith s (Bytes.of "null") then some (.null, s.drop 4)
  else if Bytes.startsWith s (Bytes.of "true") then some (.bool true, s.drop 4)
  else if Bytes.startsWith s (Bytes.of "false") then some (.bool false, s.drop 5)
  else none

mutual

def value? : Nat → Bytes → Option (Json × Bytes)
  | 0, _ => none
  | fuel + 1, s =>
    match skip s with
    | [] => none
    | b :: rest =>
      if b == byte '{' then
        let t := skip rest
        if t.head? == some (byte '}') then some (.object [], t.tail) else members? fuel [] t
      else if b == byte '[' then
        let t := skip rest
        if t.head? == some (byte ']') then some (.list [], t.tail) else items? fuel [] t
      else if b == byte '"' then (string? (b :: rest)).map fun r => (.text r.1, r.2)
      else if Bytes.isDigit b || b == byte '-' then
        (numberLength? (b :: rest)).map fun n => (.number ((b :: rest).take n), (b :: rest).drop n)
      else word? (b :: rest)

def items? : Nat → List Json → Bytes → Option (Json × Bytes)
  | 0, _, _ => none
  | fuel + 1, acc, s =>
    match value? fuel s with
    | none => none
    | some (v, rest) =>
      match skip rest with
      | b :: after =>
        if b == byte ',' then items? fuel (v :: acc) after
        else if b == byte ']' then some (.list (v :: acc).reverse, after)
        else none
      | [] => none

def members? : Nat → List (Bytes × Json) → Bytes → Option (Json × Bytes)
  | 0, _, _ => none
  | fuel + 1, acc, s =>
    match string? (skip s) with
    | none => none
    | some (k, rest) =>
      match skip rest with
      | [] => none
      | c :: afterKey =>
        if c == byte ':' then
          match value? fuel afterKey with
          | none => none
          | some (v, more) =>
            match skip more with
            | b :: after =>
              if b == byte ',' then members? fuel ((k, v) :: acc) after
              else if b == byte '}' then some (.object ((k, v) :: acc).reverse, after)
              else none
            | [] => none
        else none

end

def read? (s : Bytes) : Option Json :=
  match value? (2 * s.length + 2) s with
  | some (v, rest) => if (skip rest).isEmpty then some v else none
  | none => none

end SpanGauge.Json
