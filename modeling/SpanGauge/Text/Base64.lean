import SpanGauge.Text.Bytes

/-! Base64 with padding, both ways. -/
namespace SpanGauge.Text

def base64Digit (n : Nat) : UInt8 :=
  if n < 26 then (65 + n).toUInt8 else if n < 52 then (71 + n).toUInt8
  else if n < 62 then (n - 4).toUInt8 else if n = 62 then byte '+' else byte '/'

def base64 : Bytes → Bytes
  | a :: b :: c :: rest =>
    let n := a.toNat * 65536 + b.toNat * 256 + c.toNat
    base64Digit (n / 262144) :: base64Digit (n / 4096 % 64) :: base64Digit (n / 64 % 64) ::
      base64Digit (n % 64) :: base64 rest
  | [a, b] =>
    let n := a.toNat * 65536 + b.toNat * 256
    [base64Digit (n / 262144), base64Digit (n / 4096 % 64), base64Digit (n / 64 % 64), byte '=']
  | [a] =>
    let n := a.toNat * 65536
    [base64Digit (n / 262144), base64Digit (n / 4096 % 64), byte '=', byte '=']
  | [] => []

def base64Value? (b : UInt8) : Option Nat :=
  if Bytes.isUpper b then some (b.toNat - 65)
  else if Bytes.isLower b then some (b.toNat - 71)
  else if Bytes.isDigit b then some (b.toNat + 4)
  else if b == byte '+' then some 62
  else if b == byte '/' then some 63
  else none

/-- The bytes of a padded text without line ends, or none when it is malformed. -/
def unbase64? : Bytes → Option Bytes
  | [] => some []
  | a :: b :: c :: d :: rest =>
    match base64Value? a, base64Value? b, base64Value? c, base64Value? d with
    | some w, some x, some y, some z =>
      let n := ((w * 64 + x) * 64 + y) * 64 + z
      (unbase64? rest).map fun t => (n / 65536).toUInt8 :: (n / 256).toUInt8 :: n.toUInt8 :: t
    | some w, some x, some y, none =>
      if d == byte '=' && rest.isEmpty then
        let n := (w * 64 + x) * 64 + y
        some [(n / 1024).toUInt8, (n / 4).toUInt8]
      else none
    | some w, some x, none, none =>
      if c == byte '=' && d == byte '=' && rest.isEmpty then some [((w * 64 + x) / 16).toUInt8]
      else none
    | _, _, _, _ => none
  | _ => none

end SpanGauge.Text
