import SpanGauge.Data
import SpanGauge.Yaml.Scalar
import SpanGauge.Text.Base64

/-! The tree of a YAML document, and the values it stands for. -/
namespace SpanGauge.Yaml
open Text

/-- A tag is in its short form, and empty where none is given. -/
inductive Node where
  | scalar (tag : Bytes) (plain : Bool) (text : Bytes)
  | list (items : List Node)
  | map (entries : List (Node × Node))
  | alias (name : Bytes) (target : Node)

namespace Node

def empty : Node := .scalar [] true []

def isMap : Node → Bool
  | .map _ => true
  | .alias _ n => n.isMap
  | _ => false

def isMerge : Node → Bool
  | .scalar tag plain s =>
    s == Bytes.of "<<" && ((tag.isEmpty && plain) || tag == Bytes.of "!!merge")
  | _ => false

def untagged (plain : Bool) (s : Bytes) : Scalar := if plain then .ofPlain s else .text s

def ofScalar : Scalar → Data
  | .null => .null
  | .bool b => .bool b
  | .int n => .int n
  | .float x => .float x
  | .time shown => .time shown
  | .text s => .text s

def ownTag : Scalar → String
  | .null => "!!null"
  | .bool _ => "!!bool"
  | .int _ => "!!int"
  | .float _ => "!!float"
  | .time _ => "!!timestamp"
  | .text _ => "!!str"

/-- The value of a scalar. A tag of a known kind refuses values of other kinds, but a whole
number is also a fraction; under any other tag a scalar is its text. -/
def scalarData? (tag : Bytes) (plain : Bool) (s : Bytes) : Option Data :=
  if tag.isEmpty then some (ofScalar (untagged plain s))
  else if tag == Bytes.of "!!binary" then
    (unbase64? (s.filter fun b => b != byte '\n' && b != byte '\r')).map .text
  else if ["!!null", "!!bool", "!!int", "!!float", "!!timestamp"].any fun t => Bytes.of t == tag then
    match Scalar.ofPlain s with
    | .int n =>
      if tag == Bytes.of "!!int" then some (.int n)
      else if tag == Bytes.of "!!float" && n ≤ largest then some (.float (Float.ofInt n))
      else none
    | found => if Bytes.of (ownTag found) == tag then some (ofScalar found) else none
  else some (.text s)

/-- The key is a text as it stands, or brings other maps in. -/
def isTextKey : Node → Bool
  | .scalar tag plain s =>
    isMerge (.scalar tag plain s) || tag == Bytes.of "!!str" ||
      (tag.isEmpty && (untagged plain s).isText)
  | .alias _ n => n.isTextKey
  | _ => false

/-- The name of a key. Among texts it is written as it stands, and a null is no key; else it
is the text of its value. A list or a map is refused. -/
def name? (asText : Bool) : Node → Option (Option Bytes)
  | .scalar tag plain s =>
    match scalarData? tag plain s with
    | none => none
    | some .null => some (if asText then none else some [])
    | some d => some (some (if asText && tag != Bytes.of "!!binary" then s else d.toText))
  | .alias _ n => n.name? asText
  | _ => none

def sameKey : Node → Node → Bool
  | .scalar _ _ s, .scalar _ _ t => s == t
  | .alias n _, .alias m _ => n == m
  | .list _, .list _ => true
  | .map _, .map _ => true
  | _, _ => false

def distinct : List Node → Bool
  | [] => true
  | n :: ns => !ns.any n.sameKey && distinct ns

def merged (own : List (Bytes × Data)) (maps : List (List (Bytes × Data))) : List (Bytes × Data) :=
  maps.foldl (fun acc m => acc ++ m.filter fun e => !acc.any fun a => a.1 == e.1) own

def gathered (entries : List (Node × Node)) (own : Option (List (Bytes × Data)))
    (maps : Option (List (List (Bytes × Data)))) : Option (List (Bytes × Data)) :=
  if distinct (entries.map Prod.fst) then own.bind fun es => maps.map (merged es) else none

mutual

def data? : Node → Option Data
  | .scalar tag plain s => scalarData? tag plain s
  | .list items => (items? items).map .list
  | .map entries =>
    let asText := entries.all fun e => e.1.isTextKey
    (gathered entries (own? asText entries) (brought? asText entries)).map .map
  | .alias _ n => n.data?

def items? : List Node → Option (List Data)
  | [] => some []
  | n :: ns =>
    match n.data?, items? ns with
    | some d, some ds => some (d :: ds)
    | _, _ => none

def entries? (asText : Bool) : Node → Option (List (Bytes × Data))
  | .map entries => gathered entries (own? asText entries) (brought? asText entries)
  | .alias _ n => n.entries? asText
  | _ => none

def own? (asText : Bool) : List (Node × Node) → Option (List (Bytes × Data))
  | [] => some []
  | (k, v) :: es =>
    if k.isMerge then own? asText es
    else
      match k.name? asText, v.data?, own? asText es with
      | some (some name), some d, some ds => some ((name, d) :: ds)
      | some none, _, some ds => some ds
      | _, _, _ => none

def brought? (asText : Bool) : List (Node × Node) → Option (List (List (Bytes × Data)))
  | [] => some []
  | (k, v) :: es =>
    match if k.isMerge then v.mapsIn? asText else some [], brought? asText es with
    | some here, some ms => some (here ++ ms)
    | _, _ => none

def mapsIn? (asText : Bool) : Node → Option (List (List (Bytes × Data)))
  | .map entries =>
    (gathered entries (own? asText entries) (brought? asText entries)).map fun m => [m]
  | .alias _ n => (n.entries? asText).map fun m => [m]
  | .list items => maps? asText items
  | _ => none

def maps? (asText : Bool) : List Node → Option (List (List (Bytes × Data)))
  | [] => some []
  | n :: ns =>
    match n.entries? asText, maps? asText ns with
    | some m, some ms => some (m :: ms)
    | _, _ => none

end

end Node

end SpanGauge.Yaml
