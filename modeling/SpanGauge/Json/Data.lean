import SpanGauge.Data
import SpanGauge.Json.Reader

/-! JSON values as values of configuration files. -/
namespace SpanGauge

namespace Data

mutual

/-- None for a number that is too large. -/
def ofJson? : Json → Option Data
  | .null => some .null
  | .bool b => some (.bool b)
  | .number literal => ((Text.real? literal).bind Text.Real.toFloat?).map .float
  | .text s => some (.text s)
  | .list items => (ofItems? items).map .list
  | .object members => (ofMembers? members).map .map

def ofItems? : List Json → Option (List Data)
  | [] => some []
  | j :: js =>
    match ofJson? j, ofItems? js with
    | some d, some ds => some (d :: ds)
    | _, _ => none

/-- A name given twice has its last value. -/
def ofMembers? : List (Bytes × Json) → Option (List (Bytes × Data))
  | [] => some []
  | (k, v) :: ms =>
    match ofJson? v, ofMembers? ms with
    | some d, some ds => some (if ds.any fun e => e.1 == k then ds else (k, d) :: ds)
    | _, _ => none

end

end Data

/-- The members of the object in a text; a null has none. -/
def Json.entries? (text : Bytes) : Option (List (Bytes × Data)) :=
  match Json.read? text with
  | some (.object members) => Data.ofMembers? members
  | some .null => some []
  | _ => none

end SpanGauge
