import SpanGauge.Text.Integer
import SpanGauge.Text.Real
import SpanGauge.Text.Blank

/-! Values of configuration files, and how they are read as settings. A lenient
reading always gives something; a strict one refuses what does not fit. -/
namespace SpanGauge

inductive Data where
  | null
  | bool (b : Bool)
  | int (n : Int)
  | float (x : Float)
  | time (shown : Bytes)
  | text (s : Bytes)
  | list (items : List Data)
  | map (entries : List (Bytes × Data))

namespace Data
open Text

def isMap : Data → Bool
  | .map _ => true
  | _ => false

def entries : Data → List (Bytes × Data)
  | .map es => es
  | _ => []

/-- The value under a key; a null is as good as none. -/
def get? (d : Data) (key : Bytes) : Option Data :=
  match d.entries.find? fun e => e.1 == key with
  | some (_, .null) => none
  | some (_, v) => some v
  | none => none

/-- A double cut to a 64-bit word with sign; one that does not fit gives the least word. -/
def cut (x : Float) : Int :=
  if x < 9223372036854775808.0 && x ≥ -9223372036854775808.0 then x.toInt64.toInt else smallest

def floatText (x : Float) : Bytes :=
  if x.isNaN then Bytes.of "NaN"
  else if x.isInf then Bytes.of (if x > 0 then "+Inf" else "-Inf")
  else positional x

def boolOf? (s : Bytes) : Option Bool :=
  if ["1", "t", "T", "TRUE", "true", "True"].any fun n => Bytes.of n == s then some true
  else if ["0", "f", "F", "FALSE", "false", "False"].any fun n => Bytes.of n == s then some false
  else none

/-- A text without a point and zeros after it at its end. -/
def dropZeroPlaces (s : Bytes) : Bytes :=
  let zeros := s.reverse.takeWhile (· == byte '0')
  let rest := s.reverse.drop zeros.length
  if !zeros.isEmpty && rest.head? == some (byte '.') then rest.tail.reverse else s

/-! Lenient readings. -/

def toInt : Data → Int
  | .int n => wrap n
  | .float x => cut x
  | .bool b => if b then 1 else 0
  | .text s => (integer (dropZeroPlaces s)).toOption.getD 0
  | _ => 0

def toBool : Data → Bool
  | .bool b => b
  | .int n => n ≠ 0
  | .float x => x != 0
  | .text s => (boolOf? s).getD false
  | _ => false

def toText : Data → Bytes
  | .text s => s
  | .int n => decimal n
  | .float x => floatText x
  | .bool b => Bytes.of (if b then "true" else "false")
  | .time shown => shown
  | _ => []

/-- A plain text is split at white space, and any other scalar stands alone. -/
def toTexts : Data → List Bytes
  | .list items => items.map toText
  | .text s => words s
  | .null | .map _ => []
  | d => [d.toText]

/-! Strict readings. -/

def int? : Data → Option Int
  | .int n => some (wrap n)
  | .float x => some (cut x)
  | .bool b => some (if b then 1 else 0)
  | .text s => if s.isEmpty then some 0 else (integer s).toOption
  | _ => none

def bool? : Data → Option Bool
  | .bool b => some b
  | .int n => some (n ≠ 0)
  | .float x => some (x != 0)
  | .text s => if s.isEmpty then some false else boolOf? s
  | _ => none

def text? : Data → Option Bytes
  | .text s => some s
  | .int n => some (decimal n)
  | .float x => some (floatText x)
  | .bool b => some (Bytes.of (if b then "1" else "0"))
  | .null => some []
  | _ => none

/-- A plain text is split at commas, and an empty map is an empty list. -/
def texts? : Data → Option (List Bytes)
  | .list items => items.mapM text?
  | .text s => some (if s.isEmpty then [] else Bytes.splitAt (byte ',') s)
  | .map [] => some []
  | d => d.text?.map fun t => [t]

end Data

end SpanGauge
