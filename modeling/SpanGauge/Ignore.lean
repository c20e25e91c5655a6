import SpanGauge.Ignore.Expression
import SpanGauge.Text.Blank

/-! Ignore lists: one pattern a line. The last pattern that applies to a path
decides, and a negated pattern takes the path back in. -/
namespace SpanGauge

/-- A pattern of an ignore list. An anchored one applies from the root only, and one
for folders does not apply to a plain file of its own name. -/
structure Ignore.Line where
  negated : Bool
  foldersOnly : Bool
  anchored : Bool
  pieces : List Ignore.Piece
  deriving DecidableEq, Repr

structure Ignore where
  lines : List Ignore.Line := []
  deriving DecidableEq, Repr

namespace Ignore

def Line.read? (line : Bytes) : Option Line :=
  let negated := line.head? == some (byte '!')
  let rest := if negated then line.tail else line
  let foldersOnly := rest.getLast? == some (byte '/')
  let body := if foldersOnly then rest.dropLast else rest
  if body.isEmpty then none
  else
    (compile? (Bytes.dropLead body [byte '/'])).map fun ps =>
      ⟨negated, foldersOnly, Bytes.has body (byte '/'), ps⟩

def Line.marks (l : Line) (path : List Char) : List Bool :=
  advanceAll path (startMarks l.anchored path) l.pieces

def Line.applies (l : Line) (path : List Char) (folder : Bool) : Bool :=
  let marks := l.marks path
  reachesBelow path marks && !(l.foldersOnly && !folder && endsMarked marks)

/-- A line of this many bytes or more is refused. -/
def longestLine : Nat := 65536

inductive Fault where
  | lineTooLong
  deriving DecidableEq, Repr

def Fault.message : Fault → Bytes
  | .lineTooLong => Bytes.of "bufio.Scanner: token too long"

/-- The ignore list of a file. Blank lines and comments are skipped, and so are
malformed patterns. -/
def parse (text : Bytes) : Except Fault Ignore :=
  let raw := Bytes.splitAt (byte '\n') text
  if raw.any fun l => longestLine ≤ l.length then .error .lineTooLong
  else
    let lines := raw.map fun l => Text.trim (Bytes.dropTrail l [byte '\r'])
    .ok ⟨(lines.filter fun l => !l.isEmpty && l.head? != some (byte '#')).filterMap Line.read?⟩

def ignores (g : Ignore) (path : Bytes) (folder : Bool) : Bool :=
  let chars := Text.chars (Bytes.dropLead path (Bytes.of "./"))
  g.lines.foldl (fun ignored l => if l.applies chars folder then !l.negated else ignored) false

end Ignore

end SpanGauge
