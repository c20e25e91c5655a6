import SpanGauge.Text.Bytes

/-! Binary fractions in decimal with a fixed number of places. -/
namespace SpanGauge.Text

/-- The nearest whole number to a quotient; a tie goes to the even neighbour. -/
def roundDiv (num den : Nat) : Nat :=
  let q := num / den
  let r := num % den
  if 2 * r < den then q else if den < 2 * r then q + 1 else if q % 2 = 0 then q else q + 1

def implicitBit : Nat := 4503599627370496

def signBit : Nat := 9223372036854775808

def fraction (bits : UInt64) : Nat × Nat :=
  let e := (bits.toNat / implicitBit) % 2048
  let m := bits.toNat % implicitBit
  if e = 0 then (m, Nat.pow 2 1074)
  else if e < 1075 then (m + implicitBit, Nat.pow 2 (1075 - e))
  else ((m + implicitBit) * Nat.pow 2 (e - 1075), 1)

def leftPad (width : Nat) (c : Char) (s : Bytes) : Bytes :=
  Bytes.replicate (width - s.length) c ++ s

/-- A double with the given number of places, rounded from its exact value. -/
def fixed (places : Nat) (x : Float) : Bytes :=
  let (num, den) := fraction x.toBits
  let n := roundDiv (num * Nat.pow 10 places) den
  let sign : Bytes := if signBit ≤ x.toBits.toNat then [byte '-'] else []
  sign ++ decimal (n / Nat.pow 10 places) ++ [byte '.'] ++
    leftPad places '0' (decimal (n % Nat.pow 10 places))

end SpanGauge.Text
