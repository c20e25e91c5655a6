import SpanGauge.Text.Blank
import SpanGauge.Glob

/-! Allow lists excuse long functions: an entry names files by a glob and, after a
colon, possibly one function. -/
namespace SpanGauge

/-- An entry of an allow list. The empty function name stands for every function. -/
structure Allow.Rule where
  raw : Bytes
  pattern : Bytes
  function : Bytes
  deriving DecidableEq, Repr

abbrev Allow := List Allow.Rule

namespace Allow

def here : Bytes := Bytes.of "./"

def Rule.ofText (entry : Bytes) : Rule :=
  match Bytes.splitLast? (byte ':') entry with
  | some (pattern, function) => ⟨entry, Bytes.dropLead pattern here, function⟩
  | none => ⟨entry, Bytes.dropLead entry here, []⟩

def ofEntries (entries : List Bytes) : Allow :=
  ((entries.map Text.trim).filter fun e => !e.isEmpty).map Rule.ofText

/-- A rule covers the paths its glob matches, its own text, and paths that end in it
below some directory. -/
def Rule.coversPath (r : Rule) (path : Bytes) : Bool :=
  r.pattern.isEmpty || r.pattern == [byte '*'] || Glob.isMatch r.pattern path ||
    path == r.pattern || Bytes.endsWith path (byte '/' :: r.pattern)

def Rule.covers (r : Rule) (path function : Bytes) : Bool :=
  (r.function.isEmpty || r.function == function) && r.coversPath path

def find? (a : Allow) (path function : Bytes) : Option Rule :=
  List.find? (fun r => r.covers (Bytes.dropLead path here) function) a

end Allow

end SpanGauge
