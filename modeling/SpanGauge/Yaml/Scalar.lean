import SpanGauge.Text.Integer
import SpanGauge.Text.Real

/-! Plain YAML scalars: what value a text without quotes stands for. -/
namespace SpanGauge.Yaml

inductive Scalar where
  | null
  | bool (b : Bool)
  | int (n : Int)
  | float (x : Float)
  | time (shown : Bytes)
  | text (s : Bytes)

namespace Scalar
open Text

def isOneOf (names : List String) (s : Bytes) : Bool := names.any fun n => Bytes.of n == s

def ofWord? (s : Bytes) : Option Scalar :=
  if isOneOf ["true", "True", "TRUE"] s then some (.bool true)
  else if isOneOf ["false", "False", "FALSE"] s then some (.bool false)
  else if isOneOf ["", "~", "null", "Null", "NULL"] s then some .null
  else if isOneOf [".nan", ".NaN", ".NAN"] s then some (.float (0.0 / 0.0))
  else if isOneOf [".inf", ".Inf", ".INF", "+.inf", "+.Inf", "+.INF"] s then
    some (.float (1.0 / 0.0))
  else if isOneOf ["-.inf", "-.Inf", "-.INF"] s then some (.float (-1.0 / 0.0))
  else none

def small? (most : Nat) (s : Bytes) : Option (Nat × Bytes) :=
  let ds := (s.take 2).takeWhile Bytes.isDigit
  if ds.isEmpty || most < natOf ds then none else some (natOf ds, s.drop ds.length)

def drop? (b : UInt8) (s : Bytes) : Option Bytes :=
  match s with
  | c :: rest => if c == b then some rest else none
  | [] => none

def isLeap (y : Nat) : Bool := y % 4 = 0 && (y % 100 ≠ 0 || y % 400 = 0)

def daysIn (y m : Nat) : Nat :=
  if m = 2 then if isLeap y then 29 else 28
  else if m = 4 || m = 6 || m = 9 || m = 11 then 30 else 31

def twoDigits (n : Nat) : Bytes := leftPad 2 '0' (decimal n)

def date? (s : Bytes) : Option (Bytes × Bytes) := do
  let y := (s.takeWhile Bytes.isDigit)
  if y.length ≠ 4 then none
  let s ← drop? (byte '-') (s.drop 4)
  let (m, s) ← small? 12 s
  let s ← drop? (byte '-') s
  let (d, s) ← small? 31 s
  if m = 0 || d = 0 || daysIn (natOf y) m < d then none
  some (Bytes.join [byte '-'] [y, twoDigits m, twoDigits d], s)

/-- A fraction of a second as it is shown: at most nine places, and no zeros at its end. -/
def fractionText (places : Bytes) : Bytes :=
  match ((places.take 9).reverse.dropWhile (· == byte '0')).reverse with
  | [] => []
  | kept => byte '.' :: kept

def clock? (s : Bytes) : Option (Bytes × Bytes) := do
  let (h, s) ← small? 23 s
  let s ← drop? (byte ':') s
  let (m, s) ← small? 59 s
  let s ← drop? (byte ':') s
  let (sec, s) ← small? 59 s
  let shown := Bytes.join [byte ':'] [twoDigits h, twoDigits m, twoDigits sec]
  match s with
  | p :: d :: rest =>
    if (p == byte '.' || p == byte ',') && Bytes.isDigit d then
      let places := (d :: rest).takeWhile Bytes.isDigit
      some (shown ++ fractionText places, (d :: rest).drop places.length)
    else some (shown, s)
  | _ => some (shown, s)

def universal : Bytes := Bytes.of " +0000 UTC"

def zone? (s : Bytes) : Option Bytes :=
  match s with
  | [z] => if z == byte 'Z' then some universal else none
  | [sign, a, b, colon, c, d] =>
    let minutes := natOf [a, b] * 60 + natOf [c, d]
    let shown := sign :: twoDigits (minutes / 60) ++ twoDigits (minutes % 60)
    if (sign == byte '+' || sign == byte '-') && colon == byte ':' &&
        [a, b, c, d].all Bytes.isDigit && natOf [a, b] ≤ 24 && natOf [c, d] ≤ 60 then
      some (if minutes = 0 then universal else byte ' ' :: shown ++ byte ' ' :: shown)
    else none
  | _ => none

/-- A date, or a date and a time: after a blank without zone, after the letter T with one.
The clock of the machine runs in universal time. -/
def time? (s : Bytes) : Option Bytes := do
  let (day, s) ← date? s
  match s with
  | [] => some (day ++ Bytes.of " 00:00:00" ++ universal)
  | sep :: rest =>
    let (clock, s) ← clock? rest
    let shown := day ++ byte ' ' :: clock
    if sep == byte ' ' then if s.isEmpty then some (shown ++ universal) else none
    else if sep == byte 'T' || sep == byte 't' then (zone? s).map fun z => shown ++ z
    else none

def withoutUnderscores (s : Bytes) : Bytes := s.filter (· != byte '_')

def marked? (mark : String) (base : Nat) (s : Bytes) : Option Int :=
  let m := Bytes.of mark
  if Bytes.startsWith s m then (integerIn base (s.drop m.length)).toOption
  else if Bytes.startsWith s (byte '-' :: m) then
    (integerIn base (byte '-' :: s.drop (m.length + 1))).toOption
  else none

def ofNumber? (s : Bytes) : Option Scalar :=
  let plain := withoutUnderscores s
  match integer plain with
  | .ok n => some (.int n)
  | .error _ =>
    match word plain with
    | .ok n => some (.int n)
    | .error _ =>
      match (real? plain).bind Real.toFloat? with
      | some x => some (.float x)
      | none =>
        match marked? "0b" 2 plain, marked? "0o" 8 plain with
        | some n, _ => some (.int n)
        | none, some n => some (.int n)
        | none, none => none

def ofPlain (s : Bytes) : Scalar :=
  match s with
  | [] => .null
  | b :: _ =>
    let looked := ofWord? s
    if Bytes.isDigit b || b == byte '+' || b == byte '-' then
      match looked with
      | some v => v
      | none =>
        match time? s with
        | some shown => .time shown
        | none => (ofNumber? s).getD (.text s)
    else if b == byte '.' then
      match looked with
      | some v => v
      | none =>
        match (real? s).bind Real.toFloat? with
        | some x => .float x
        | none => .text s
    else looked.getD (.text s)

def isText : Scalar → Bool
  | .text _ => true
  | _ => false

end Scalar

end SpanGauge.Yaml
