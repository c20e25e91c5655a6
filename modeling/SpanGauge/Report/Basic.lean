import SpanGauge.Span

/-! Reports: the verdict on each function and the totals of a run. -/
namespace SpanGauge

/-- One function with its verdict. `file` is relative to the scanned root and `path`
is how the file was reached. -/
structure Finding where
  file : Bytes
  path : Bytes
  span : Span
  exceeds : Bool
  allowed : Bool
  rule : Bytes
  deriving DecidableEq, Repr

def Finding.isViolation (f : Finding) : Bool := f.exceeds && !f.allowed

/-- Longer functions first, then by file, then by first line. -/
def Finding.le (a b : Finding) : Bool :=
  if a.span.count = b.span.count then
    match Bytes.cmp a.file b.file with
    | .lt => true
    | .gt => false
    | .eq => a.span.first ≤ b.span.first
  else b.span.count < a.span.count

/-- The findings of a report may be missing altogether, which a finished run never is. -/
structure Report where
  threshold : Int
  files : Int
  functions : Int
  violations : Int
  excused : Int
  findings : Option (List Finding)
  deriving DecidableEq, Repr

def Report.list (r : Report) : List Finding := r.findings.getD []

def Report.failed (r : Report) : Bool := 0 < r.violations

end SpanGauge
