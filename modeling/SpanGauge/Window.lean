import SpanGauge.Text.Integer
import SpanGauge.Text.Lines

/-! Windows on lists that are too long to be shown. Positions are words of 64 bits, and
their sums wrap. -/
namespace SpanGauge.Window
open Text

/-- A number kept within bounds; the lower bound is looked at first. -/
def clamp (v least most : Int) : Int := if v < least then least else if most < v then most else v

/-- The offset of a window that shows the cursor, as near to the last offset as it gets. -/
def scroll (cursor total height offset : Int) : Int :=
  let above := if cursor < offset then cursor else offset
  let shown := if wrap (above + height) ≤ cursor then wrap (cursor - height + 1) else above
  clamp shown 0 (max 0 (wrap (total - height)))

def limit (total height offset : Int) : Int := min (wrap (offset + height)) total

/-- The positions of a list that are shown, from `first` to before `stop`, and the offset that is
kept for the next time. -/
structure Range where
  first : Int
  stop : Int
  offset : Int
  deriving DecidableEq, Repr

def around (cursor total height offset : Int) : Range :=
  let first := scroll cursor total height offset
  ⟨first, limit total height first, first⟩

def lineCount (s : Bytes) : Nat := if s.isEmpty then 0 else s.count feed + 1

structure Row where
  number : Bytes
  text : Bytes
  deriving DecidableEq, Repr

def rightAligned (width : Nat) (s : Bytes) : Bytes := Bytes.replicate (width - s.length) ' ' ++ s

def dropReturns (s : Bytes) : Bytes := (s.reverse.dropWhile (· == carriage)).reverse

def lastRow (source : List Bytes) (first last most : Int) : Int :=
  min (min last source.length) (wrap (first + most - 1))

/-- At most `most` lines from `first` to `last`, counted from one. -/
def rows (source : List Bytes) (first last most : Int) : List Row :=
  if source.isEmpty || first < 1 then []
  else
    let stop := lastRow source first last most
    let width := (decimal stop).length
    (source.drop (first - 1).toNat).take (stop - first + 1).toNat
      |>.zipIdx.map fun (l, i) => ⟨rightAligned width (decimal (first + i)), dropReturns l⟩

end SpanGauge.Window
