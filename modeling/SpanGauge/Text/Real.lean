import SpanGauge.Text.Decimal

/-! Decimal fractions: reading them as doubles, and the shortest text that reads back. -/
namespace SpanGauge.Text

structure Real where
  negative : Bool
  digits : Nat
  places : Int
  deriving DecidableEq, Repr

def natOf (ds : Bytes) : Nat := ds.foldl (fun v b => v * 10 + (b.toNat - 48)) 0

def exponent? (s : Bytes) : Option Int :=
  match s with
  | [] => some 0
  | e :: rest =>
    if e == byte 'e' || e == byte 'E' then
      let neg := rest.head? == some (byte '-')
      let ds := if neg || rest.head? == some (byte '+') then rest.tail else rest
      if ds.isEmpty || !ds.all Bytes.isDigit then none
      else some (if neg then -natOf ds else natOf ds)
    else none

/-- A decimal fraction: digits with an optional point (not a point alone), then an
optional exponent. -/
def real? (s : Bytes) : Option Real :=
  let neg := s.head? == some (byte '-')
  let t := if neg || s.head? == some (byte '+') then s.tail else s
  let whole := t.takeWhile Bytes.isDigit
  let rest := t.drop whole.length
  let pointed := rest.head? == some (byte '.')
  let frac := if pointed then rest.tail.takeWhile Bytes.isDigit else []
  let after := if pointed then rest.tail.drop frac.length else rest
  if whole.isEmpty && frac.isEmpty then none
  else (exponent? after).map fun e => ⟨neg, natOf (whole ++ frac), (frac.length : Int) - e⟩

def digitCount (n : Nat) : Nat := (toString n).length

/-- The nearest double; none when it is too large. -/
def Real.toFloat? (r : Real) : Option Float :=
  let size : Int := digitCount r.digits - r.places
  let magnitude : Float :=
    if r.digits = 0 || size < -400 then 0
    else if 400 < size then 1.0 / 0.0
    else Float.ofScientific r.digits (decide (0 < r.places)) r.places.natAbs
  if magnitude.isInf then none else some (if r.negative then -magnitude else magnitude)

def gridPoint (num den : Nat) (power : Int) : Nat :=
  if 0 ≤ power then roundDiv (num * Nat.pow 10 power.toNat) den
  else roundDiv num (den * Nat.pow 10 (-power).toNat)

/-- The fewest digits `d` and the power `p` such that `d` divided by ten to the `p` reads
back, starting from the given number of digits. -/
def shortestFrom (x : Float) (num den : Nat) (scale : Int) : Nat → Nat → Nat × Int
  | 0, n => (gridPoint num den (n - scale), n - scale)
  | fuel + 1, n =>
    let p : Int := n - scale
    let d := gridPoint num den p
    if Float.ofScientific d (decide (0 < p)) p.natAbs == x then (d, p)
    else shortestFrom x num den scale fuel (n + 1)

def scaleOf (num den : Nat) : Int :=
  if den ≤ num then digitCount (num / den)
  else
    let k := digitCount (den / num)
    if den ≤ num * Nat.pow 10 (k - 1) then 2 - (k : Int) else 1 - k

def positional (x : Float) : Bytes :=
  let a := x.abs
  let sign : Bytes := if signBit ≤ x.toBits.toNat then [byte '-'] else []
  if a == 0 then sign ++ Bytes.of "0"
  else
    let (num, den) := fraction a.toBits
    let (d, p) := shortestFrom a num den (scaleOf num den) 16 1
    if p ≤ 0 then sign ++ decimal (d * Nat.pow 10 (-p).toNat)
    else
      let text := leftPad (p.toNat + 1) '0' (decimal d)
      let cut := text.length - p.toNat
      sign ++ text.take cut ++ [byte '.'] ++ text.drop cut

end SpanGauge.Text
