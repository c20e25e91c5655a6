import SpanGauge.Span.Extract
import SpanGauge.Allow
import SpanGauge.Report.Basic
import SpanGauge.Metrics
import SpanGauge.Log

/-! Analysis of a list of sources. Each source is a task of its own that fills its
own slot; the report is built from the slots in the order of the sources, so it
does not depend on the order in which the tasks finish. -/
namespace SpanGauge

structure Source where
  path : Bytes
  relative : Bytes
  text : Bytes
  deriving DecidableEq, Repr

structure Analysis where
  limit : Int
  allow : Allow
  showAll : Bool
  deriving DecidableEq, Repr

namespace Analysis

/-- The verdict on one function. Only functions over the limit are looked up in the
allow list. -/
def judge (a : Analysis) (file : Source) (span : Span) : Finding :=
  if a.limit < span.count then
    match a.allow.find? file.relative span.name with
    | some rule => ⟨file.relative, file.path, span, true, true, rule.raw⟩
    | none => ⟨file.relative, file.path, span, true, false, []⟩
  else ⟨file.relative, file.path, span, false, false, []⟩

def task (a : Analysis) (file : Source) : List Finding := (Span.extract file.text).map (a.judge file)

def slots (a : Analysis) (files : Array Source) (order : List Nat) : Array (List Finding) :=
  order.foldl
    (fun filled i =>
      match files[i]? with
      | some file => filled.setIfInBounds i (a.task file)
      | none => filled)
    (Array.replicate files.size [])

def count (p : Finding → Bool) (fs : List Finding) : Int := (fs.filter p).length

def report (a : Analysis) (found : List (List Finding)) : Report :=
  let all := found.flatten
  { threshold := a.limit
    files := found.length
    functions := all.length
    violations := count Finding.isViolation all
    excused := count (fun f => f.exceeds && f.allowed) all
    findings := some ((all.filter fun f => a.showAll || f.exceeds).mergeSort Finding.le) }

def runIn (a : Analysis) (files : List Source) (order : List Nat) : Report :=
  a.report (a.slots files.toArray order).toList

def run (a : Analysis) (files : List Source) : Report := a.runIn files (List.range files.length)

structure Cancelled where
  deriving DecidableEq, Repr

def Cancelled.message (_ : Cancelled) : Bytes := Bytes.of "context canceled"

/-- A run that may have been called off. With no sources there is nothing to call off. -/
def runUnless (a : Analysis) (cancelled : Bool) (files : List Source) : Except Cancelled Report :=
  if cancelled && !files.isEmpty then .error {} else .ok (a.run files)

def events (a : Analysis) (file : Source) (nanoseconds : Int) : List Metrics.Event :=
  let found := a.task file
  .file found.length nanoseconds ::
    found.map fun f => .function f.span.count f.exceeds f.allowed

def log (a : Analysis) (files : List Source) (r : Report) : List Log.Entry :=
  (files.map fun file =>
    Log.entry Log.debug "scanned file"
      [Log.text "path" file.relative, Log.int "functions" (a.task file).length]) ++
  [Log.entry Log.debug "analysis complete"
    [Log.int "files" r.files, Log.int "functions" r.functions,
     Log.int "violations" r.violations, Log.int "excused" r.excused]]

end Analysis

end SpanGauge
