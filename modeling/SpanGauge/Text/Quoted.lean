import SpanGauge.Text.Printable

/-! Texts between double quotes: quotes and backslashes are escaped, and so is every
character that cannot be printed. -/
namespace SpanGauge.Text

def hexDigit (upper : Bool) (n : Nat) : UInt8 :=
  if n < 10 then (48 + n).toUInt8 else if upper then (55 + n).toUInt8 else (87 + n).toUInt8

def hexPadded (upper : Bool) (n : Nat) : Nat → Bytes
  | 0 => []
  | width + 1 => hexPadded upper (n / 16) width ++ [hexDigit upper (n % 16)]

def quotedRune (r : Rune) : Bytes :=
  let n := r.char.toNat
  if r.broken then Bytes.of "\\x" ++ hexPadded false ((r.bytes.headD 0).toNat) 2
  else if r.char == '"' || r.char == '\\' then [byte '\\', n.toUInt8]
  else if isPrintable r.char then r.bytes
  else
    match n with
    | 7 => Bytes.of "\\a"
    | 8 => Bytes.of "\\b"
    | 12 => Bytes.of "\\f"
    | 10 => Bytes.of "\\n"
    | 13 => Bytes.of "\\r"
    | 9 => Bytes.of "\\t"
    | 11 => Bytes.of "\\v"
    | _ =>
      if n < 32 || n = 127 then Bytes.of "\\x" ++ hexPadded false n 2
      else if n < 0x10000 then Bytes.of "\\u" ++ hexPadded false n 4
      else Bytes.of "\\U" ++ hexPadded false n 8

def quoted (s : Bytes) : Bytes := byte '"' :: (runes s).flatMap quotedRune ++ [byte '"']

def quotedChar (c : Char) : Bytes :=
  let body :=
    if c == '\'' then Bytes.of "\\'"
    else if c == '"' then [byte '"']
    else quotedRune ⟨c, encode c⟩
  byte '\'' :: body ++ [byte '\'']

end SpanGauge.Text
