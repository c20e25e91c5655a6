import SpanGauge.Settings.Key
import SpanGauge.Text.Case

/-! The layers of settings. A value set in the run wins over an option of the command
line, that one over the environment, the file, and last what is usual. -/
namespace SpanGauge.Settings

structure Layers where
  chosen : List (Key × Data) := []
  options : List (Key × Data) := []
  environment : Environment := []
  /-- The entries of the file, with names in lower case. -/
  file : Data := .map []
  processors : Nat := 1

namespace Layers

def entry? (es : List (Key × Data)) (k : Key) : Option Data :=
  (es.find? fun e => e.1 = k).map (·.2)

/-- The entry of a file: the whole dotted name first, then part by part. -/
def inFile? (d : Data) : List Bytes → Option Data
  | [] => some d
  | [n] => d.get? n
  | n :: ns =>
    (d.get? (Bytes.join [byte '.'] (n :: ns))).orElse fun _ => (d.get? n).bind (inFile? · ns)

/-- An outer name that has a value of its own hides what lies below it. -/
def hiddenInFile (d : Data) (path : List Bytes) : Bool :=
  match path with
  | n :: _ :: _ => ((d.get? n).map fun v => !v.isMap).getD false
  | _ => false

def hiddenInEnvironment (e : Environment) (path : List Bytes) : Bool :=
  match path with
  | n :: _ :: _ => (e.get? (Key.carrier [n])).isSome
  | _ => false

def find? (l : Layers) (k : Key) : Option Data :=
  match entry? l.chosen k, entry? l.options k, l.environment.get? (Key.carrier k.route) with
  | some v, _, _ => some v
  | none, some v, _ => some v
  | none, none, some v => some (.text v)
  | none, none, none =>
    if hiddenInEnvironment l.environment k.route then none
    else
      match inFile? l.file k.route with
      | some v => some v
      | none =>
        if hiddenInFile l.file k.route then none else some (k.usual l.environment l.processors)

def set (l : Layers) (k : Key) (v : Data) : Layers := { l with chosen := (k, v) :: l.chosen }

end Layers

/-- Entries under their names in lower case. A name that had to be changed takes the place of
one that had not. -/
def lowerNames (es : List (Bytes × Data)) : List (Bytes × Data) :=
  let changed := es.filter fun e => Text.lower e.1 != e.1
  let kept := es.filter fun e =>
    Text.lower e.1 == e.1 && !changed.any fun c => Text.lower c.1 == e.1
  (kept ++ changed.reverse).map fun e => (Text.lower e.1, e.2)

mutual

def foldNames : Data → Data
  | .map es => .map (lowerNames (foldEntries es))
  | d => d

def foldEntries : List (Bytes × Data) → List (Bytes × Data)
  | [] => []
  | (name, d) :: es => (name, foldNames d) :: foldEntries es

end

end SpanGauge.Settings
