import SpanGauge.Ignore.CharSet
import SpanGauge.Pattern

/-! The pieces of an ignore pattern, and the places of a path they lead to. A place
is a position between two characters; a piece takes a set of places to the places
that can be reached from it by reading one of its words. -/
namespace SpanGauge.Ignore

inductive Piece where
  | one (s : CharSet)
  | run (s : CharSet)
  | folders
  deriving DecidableEq, Repr

namespace Piece

def notFeed : CharSet := CharSet.except '\n'

def pattern : Piece → Pattern Char
  | .one s => .one s.has
  | .run s => .many s.has
  | .folders => .alt (.seq (.many notFeed.has) (.one (· == '/'))) .empty

/-- Places after one character of a set. The flag for the place before the first
character comes first. -/
def after (s : CharSet) : List Char → List Bool → List Bool
  | c :: cs, m :: ms => (m && s.has c) :: after s cs ms
  | _, _ => []

def spread (s : CharSet) (carry : Bool) : List Char → List Bool → List Bool
  | c :: cs, m :: ms => (m || carry) :: spread s ((m || carry) && s.has c) cs ms
  | [], m :: _ => [m || carry]
  | _, [] => []

def either : List Bool → List Bool → List Bool := List.zipWith (· || ·)

def advance (path : List Char) (marks : List Bool) : Piece → List Bool
  | .one s => false :: after s path marks
  | .run s => spread s false path marks
  | .folders => either marks (false :: after (CharSet.only '/') path (spread notFeed false path marks))

end Piece

def advanceAll (path : List Char) (marks : List Bool) (ps : List Piece) : List Bool :=
  ps.foldl (Piece.advance path) marks

/-- The front of a path, and for a floating pattern also each place after a slash. -/
def startMarks (anchored : Bool) (path : List Char) : List Bool :=
  true :: path.map fun c => !anchored && c == '/'

def endsMarked (marks : List Bool) : Bool := marks.getLast?.getD false

/-- Some marked place is the end of the path, or stands before a slash that no line
feed follows. -/
def reachesBelow : List Char → List Bool → Bool
  | c :: cs, m :: ms => (m && c == '/' && !cs.any (· == '\n')) || reachesBelow cs ms
  | [], m :: _ => m
  | _, [] => false

end SpanGauge.Ignore
