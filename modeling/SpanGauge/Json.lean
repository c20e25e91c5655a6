import SpanGauge.Text.Quoted

/-! JSON values, their compact and indented text, and the escapes inside strings. -/
namespace SpanGauge

/-- A JSON value. Numbers keep their literal, and members keep their order. -/
inductive Json where
  | null
  | bool (b : Bool)
  | number (literal : Bytes)
  | text (s : Bytes)
  | list (items : List Json)
  | object (members : List (Bytes × Json))

namespace Json
open Text

def int (n : Int) : Json := .number (decimal n)

structure Escaping where
  /-- The characters that have a meaning in markup. -/
  markup : Bool
  /-- How an ill-formed byte is written. -/
  broken : Bytes

def guarded : Escaping := ⟨true, Bytes.of "\\ufffd"⟩

def bare : Escaping := ⟨false, Text.encode Text.replacement⟩

def escapedRune (e : Escaping) (r : Rune) : Bytes :=
  let n := r.char.toNat
  if r.broken then e.broken
  else if r.char == '"' || r.char == '\\' then [byte '\\', n.toUInt8]
  else
    match n with
    | 8 => Bytes.of "\\b"
    | 12 => Bytes.of "\\f"
    | 10 => Bytes.of "\\n"
    | 13 => Bytes.of "\\r"
    | 9 => Bytes.of "\\t"
    | _ =>
      if n < 32 || n = 0x2028 || n = 0x2029 ||
          (e.markup && (r.char == '<' || r.char == '>' || r.char == '&')) then
        Bytes.of "\\u" ++ hexPadded false n 4
      else r.bytes

def stringText (e : Escaping) (s : Bytes) : Bytes :=
  byte '"' :: (runes s).flatMap (escapedRune e) ++ [byte '"']

def comma : Bytes := [byte ',']

mutual

def compact (e : Escaping) : Json → Bytes
  | .null => Bytes.of "null"
  | .bool b => Bytes.of (if b then "true" else "false")
  | .number literal => literal
  | .text s => stringText e s
  | .list items => byte '[' :: Bytes.join comma (compactItems e items) ++ [byte ']']
  | .object members => byte '{' :: Bytes.join comma (compactMembers e members) ++ [byte '}']

def compactItems (e : Escaping) : List Json → List Bytes
  | [] => []
  | j :: js => compact e j :: compactItems e js

def compactMembers (e : Escaping) : List (Bytes × Json) → List Bytes
  | [] => []
  | (k, v) :: ms => (stringText e k ++ [byte ':'] ++ compact e v) :: compactMembers e ms

end

def block (depth : Nat) (opening closing : Char) (items : List Bytes) : Bytes :=
  if items.isEmpty then [byte opening, byte closing]
  else
    let line := byte '\n' :: Bytes.replicate (2 * depth + 2) ' '
    byte opening :: line ++ Bytes.join (comma ++ line) items ++
      (byte '\n' :: Bytes.replicate (2 * depth) ' ') ++ [byte closing]

mutual

def indented (e : Escaping) (depth : Nat) : Json → Bytes
  | .null => Bytes.of "null"
  | .bool b => Bytes.of (if b then "true" else "false")
  | .number literal => literal
  | .text s => stringText e s
  | .list items => block depth '[' ']' (indentedItems e (depth + 1) items)
  | .object members => block depth '{' '}' (indentedMembers e (depth + 1) members)

def indentedItems (e : Escaping) (depth : Nat) : List Json → List Bytes
  | [] => []
  | j :: js => indented e depth j :: indentedItems e depth js

def indentedMembers (e : Escaping) (depth : Nat) : List (Bytes × Json) → List Bytes
  | [] => []
  | (k, v) :: ms =>
    (stringText e k ++ Bytes.of ": " ++ indented e depth v) :: indentedMembers e depth ms

end

def pretty (j : Json) : Bytes := indented guarded 0 j ++ [byte '\n']

end Json

end SpanGauge
