import SpanGauge.Text.Bytes

/-! Function spans: the lines from a signature to the brace that closes its body. -/
namespace SpanGauge

structure Span where
  name : Bytes
  first : Int
  last : Int
  count : Int
  deriving DecidableEq, Repr

/-- The span of the lines `first` to `last`, both included. -/
def Span.ofLines (name : Bytes) (first last : Nat) : Span :=
  ⟨name, first, last, (last : Int) - first + 1⟩

end SpanGauge
