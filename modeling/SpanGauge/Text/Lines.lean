import SpanGauge.Text.Bytes

/-! Physical lines. A line ends at a line feed, and one carriage return before
that end belongs to the line end. -/
namespace SpanGauge.Text

def feed : UInt8 := byte '\n'
def carriage : UInt8 := byte '\r'

/-- The lines of a text; the empty text has none, and a final line feed is
followed by one more, empty, line. -/
def lines (text : Bytes) : List Bytes :=
  if text.isEmpty then []
  else (Bytes.splitAt feed text).map fun line => Bytes.dropTrail line [carriage]

end SpanGauge.Text
