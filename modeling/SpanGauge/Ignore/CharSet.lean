import SpanGauge.Text.Utf8
import SpanGauge.Text.Category

/-! Sets of characters and the bracket expressions that denote them. A bracket
expression lists characters, ranges, named classes, categories and scripts, and
escapes; a leading caret takes the complement. Case always counts, and names of
categories and scripts are those of the character database to the letter. -/
namespace SpanGauge.Ignore

structure CharSet where
  negated : Bool
  ranges : List (Nat × Nat)
  deriving DecidableEq, Repr

namespace CharSet

def has (s : CharSet) (c : Char) : Bool := Text.within s.ranges c.toNat != s.negated

def only (c : Char) : CharSet := ⟨false, [(c.toNat, c.toNat)]⟩
def except (c : Char) : CharSet := ⟨true, [(c.toNat, c.toNat)]⟩

def maxCode : Nat := 0x10FFFF

def gapsFrom (start : Nat) : List (Nat × Nat) → List (Nat × Nat)
  | [] => if start ≤ maxCode then [(start, maxCode)] else []
  | (lo, hi) :: rest => if start < lo then (start, lo - 1) :: gapsFrom (hi + 1) rest
    else gapsFrom (hi + 1) rest

/-- What lies outside ranges that are in order and disjoint. -/
def outside (ranges : List (Nat × Nat)) : List (Nat × Nat) := gapsFrom 0 ranges

def span (lo hi : Char) : Nat × Nat := (lo.toNat, hi.toNat)

def digits : List (Nat × Nat) := [span '0' '9']
def spaces : List (Nat × Nat) := [(9, 10), (12, 13), (32, 32)]
def wordChars : List (Nat × Nat) := [span '0' '9', span 'A' 'Z', span '_' '_', span 'a' 'z']

def named : List (String × List (Nat × Nat)) :=
  [("alnum", [span '0' '9', span 'A' 'Z', span 'a' 'z']), ("alpha", [span 'A' 'Z', span 'a' 'z']),
   ("ascii", [(0, 127)]), ("blank", [(9, 9), (32, 32)]), ("cntrl", [(0, 31), (127, 127)]),
   ("digit", digits), ("graph", [span '!' '~']), ("lower", [span 'a' 'z']),
   ("print", [span ' ' '~']),
   ("punct", [span '!' '/', span ':' '@', span '[' (Char.ofNat 96), (0x7B, 0x7E)]),
   ("space", [(9, 13), (32, 32)]), ("upper", [span 'A' 'Z']), ("word", wordChars),
   ("xdigit", [span '0' '9', span 'A' 'F', span 'a' 'f'])]

/-- The ranges of a named class; a caret before the name takes what lies outside. -/
def named? (name : List Char) : Option (List (Nat × Nat)) :=
  match name with
  | '^' :: rest => ((named.find? fun e => e.1.toList == rest).map (·.2)).map outside
  | _ => (named.find? fun e => e.1.toList == name).map (·.2)

/-- The text before and after the first colon that a closing bracket follows. -/
def untilColon : List Char → List Char → Option (List Char × List Char)
  | _, [] => none
  | acc, c :: rest =>
    if c == ':' && rest.head? == some ']' then some (acc.reverse, rest.tail)
    else untilColon (c :: acc) rest

/-- The class of a letter after a backslash; a capital letter takes what lies outside. -/
def lettered? : Char → Option (List (Nat × Nat))
  | 'd' => some digits
  | 'D' => some (outside digits)
  | 's' => some spaces
  | 'S' => some (outside spaces)
  | 'w' => some wordChars
  | 'W' => some (outside wordChars)
  | _ => none

def className? : List Char → Option (List Char × List Char)
  | [] => none
  | c :: rest =>
    if c == Char.ofNat 0x7B then
      let name := rest.takeWhile (· != Char.ofNat 0x7D)
      match rest.drop name.length with
      | _ :: after => some (name, after)
      | [] => none
    else some ([c], rest)

/-- A category or a script, read after its letter `p`; a capital letter and a caret before
the name each take what lies outside. -/
def property? (capital : Bool) (s : List Char) : Option (List (Nat × Nat) × List Char) :=
  match className? s with
  | none => none
  | some (name, after) =>
    let caret := name.head? == some '^'
    let known := Text.classNamed? (Text.ofChars (if caret then name.tail else name))
    known.map fun rs => (if capital != caret then outside rs else rs, after)

def octal? (c : Char) : Option Nat := if '0' ≤ c ∧ c ≤ '7' then some (c.toNat - 48) else none

def hex? (c : Char) : Option Nat :=
  if '0' ≤ c ∧ c ≤ '9' then some (c.toNat - 48)
  else if 'a' ≤ c ∧ c ≤ 'f' then some (c.toNat - 87)
  else if 'A' ≤ c ∧ c ≤ 'F' then some (c.toNat - 55)
  else none

def octals : Nat → Nat → List Char → Nat × List Char
  | 0, v, s => (v, s)
  | _ + 1, v, [] => (v, [])
  | n + 1, v, c :: rest =>
    match octal? c with
    | some d => octals n (v * 8 + d) rest
    | none => (v, c :: rest)

def braced? : Nat → Bool → List Char → Option (Nat × List Char)
  | _, _, [] => none
  | v, seen, c :: rest =>
    if c == Char.ofNat 0x7D then if seen then some (v, rest) else none
    else
      match hex? c with
      | some d => if maxCode < v * 16 + d then none else braced? (v * 16 + d) true rest
      | none => none

def escape? : List Char → Option (Nat × List Char)
  | [] => none
  | c :: rest =>
    match octal? c with
    | some d =>
      if d = 0 || (rest.head?.bind octal?).isSome then some (octals 2 d rest) else none
    | none =>
      match c with
      | 'x' =>
        match rest with
        | a :: more =>
          if a == Char.ofNat 0x7B then braced? 0 false more
          else
            match hex? a, more with
            | some x, b :: after => (hex? b).map fun y => (x * 16 + y, after)
            | _, _ => none
        | [] => none
      | 'a' => some (7, rest)
      | 'f' => some (12, rest)
      | 'n' => some (10, rest)
      | 'r' => some (13, rest)
      | 't' => some (9, rest)
      | 'v' => some (11, rest)
      | _ => if c.toNat < 128 && !c.isAlphanum then some (c.toNat, rest) else none

def single? : List Char → Option (Nat × List Char)
  | [] => none
  | c :: rest => if c == '\\' then escape? rest else some (c.toNat, rest)

def range? (s : List Char) : Option ((Nat × Nat) × List Char) :=
  match single? s with
  | none => none
  | some (lo, rest) =>
    match rest with
    | '-' :: c :: more =>
      if c == ']' then some ((lo, lo), rest)
      else
        match single? (c :: more) with
        | some (hi, after) => if hi < lo then none else some ((lo, hi), after)
        | none => none
    | _ => some ((lo, lo), rest)

def item? (s : List Char) : Option (List (Nat × Nat) × List Char) :=
  let plain := (range? s).map fun r => ([r.1], r.2)
  match s with
  | '[' :: ':' :: rest =>
    match untilColon [] rest with
    | some (name, after) => (named? name).map fun rs => (rs, after)
    | none => plain
  | '\\' :: c :: rest =>
    if c == 'p' || c == 'P' then property? (c == 'P') rest
    else
      match lettered? c with
      | some rs => some (rs, rest)
      | none => plain
  | _ => plain

/-- The items up to the closing bracket, which cannot come first. -/
def items? : Nat → Bool → List (Nat × Nat) → List Char → Option (List (Nat × Nat) × List Char)
  | 0, _, _, _ => none
  | fuel + 1, first, acc, s =>
    if s.head? == some ']' && !first then some (acc, s.tail)
    else
      match item? s with
      | some (rs, rest) => items? fuel false (acc ++ rs) rest
      | none => none

def read? (s : List Char) : Option (CharSet × List Char) :=
  let negated := s.head? == some '^'
  let body := if negated then s.tail else s
  (items? (body.length + 1) true [] body).map fun r => (⟨negated, r.1⟩, r.2)

end CharSet

end SpanGauge.Ignore
