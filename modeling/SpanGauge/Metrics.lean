import SpanGauge.Text.Bytes

/-! Metrics of a run. Workers tell numbers to instruments, a counter keeps a sum for each
attribute, and the totals are read off what the instruments hold. -/
namespace SpanGauge

inductive Metrics.Event where
  | file (functions : Int) (nanoseconds : Int)
  | function (lines : Int) (violation excused : Bool)
  deriving DecidableEq, Repr

namespace Metrics

inductive Update where
  | files (n : Int)
  | functions (n : Int)
  | duration (nanoseconds : Int)
  | lines (n : Int)
  | violations (n : Int) (excused : Bool)
  deriving DecidableEq, Repr

def Event.updates : Event → List Update
  | .file functions ns => [.files 1, .functions functions, .duration ns]
  | .function lines violation excused =>
    .lines lines :: if violation then [.violations 1 excused] else []

/-- A counter holds a sum for each attribute under which something was added. -/
structure Counter (κ : Type) where
  points : List (κ × Int) := []
  deriving DecidableEq, Repr

namespace Counter

variable {κ : Type} [DecidableEq κ]

def raise (k : κ) (n : Int) : List (κ × Int) → List (κ × Int)
  | [] => [(k, n)]
  | p :: ps => if p.1 = k then (k, p.2 + n) :: ps else p :: raise k n ps

def add (c : Counter κ) (k : κ) (n : Int) : Counter κ := ⟨raise k n c.points⟩

def total (c : Counter κ) (p : κ → Bool) : Int :=
  c.points.foldr (fun q sum => if p q.1 then q.2 + sum else sum) 0

end Counter

structure Histogram where
  largest : Option Int := none
  deriving DecidableEq, Repr

def Histogram.record (h : Histogram) (n : Int) : Histogram :=
  match h.largest with
  | some m => ⟨some (max m n)⟩
  | none => ⟨some n⟩

end Metrics

structure Metrics where
  files : Metrics.Counter Unit := {}
  functions : Metrics.Counter Unit := {}
  violations : Metrics.Counter Bool := {}
  lines : Metrics.Histogram := {}
  seconds : Float := 0

namespace Metrics

/-- Whole seconds and the fraction are converted apart and then added. -/
def secondsOf (nanoseconds : Int) : Float :=
  Float.ofInt (Int.tdiv nanoseconds 1000000000) +
    Float.ofInt (Int.tmod nanoseconds 1000000000) / 1000000000

def update (m : Metrics) : Update → Metrics
  | .files n => { m with files := m.files.add () n }
  | .functions n => { m with functions := m.functions.add () n }
  | .duration ns => { m with seconds := m.seconds + secondsOf ns }
  | .lines n => { m with lines := m.lines.record n }
  | .violations n excused => { m with violations := m.violations.add excused n }

def record (m : Metrics) (e : Event) : Metrics := e.updates.foldl update m

def ofEvents (events : List Event) : Metrics := events.foldl record {}

/-- The totals at one time. Violations include the excused ones. -/
structure Stats where
  files : Int := 0
  functions : Int := 0
  violations : Int := 0
  excused : Int := 0
  longest : Int := 0
  seconds : Float := 0

def stats (m : Metrics) : Stats where
  files := m.files.total fun _ => true
  functions := m.functions.total fun _ => true
  violations := m.violations.total fun _ => true
  excused := m.violations.total id
  longest := max 0 (m.lines.largest.getD 0)
  seconds := m.seconds

inductive Fault where
  | stopped
  | collectStopped
  deriving DecidableEq, Repr

def Fault.message : Fault → Bytes
  | .stopped => Bytes.of "reader is shutdown"
  | .collectStopped => Bytes.of "collect metrics: reader is shutdown"

/-- A meter that can be switched off once; an absent meter stays at zero. -/
inductive Meter where
  | absent
  | running (metrics : Metrics)
  | stopped

namespace Meter

def update : Meter → Update → Meter
  | .running m, u => .running (m.update u)
  | meter, _ => meter

def record (meter : Meter) (e : Event) : Meter := e.updates.foldl update meter

def stop : Meter → Except Fault Meter
  | .absent => .ok .absent
  | .running _ => .ok .stopped
  | .stopped => .error .stopped

def snapshot : Meter → Except Fault Stats
  | .absent => .ok {}
  | .running m => .ok m.stats
  | .stopped => .error .collectStopped

end Meter

end Metrics

end SpanGauge
