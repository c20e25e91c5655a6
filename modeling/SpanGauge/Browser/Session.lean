import SpanGauge.Browser
import SpanGauge.Editor

/-! What happens around the browser: commands are carried out and their outcome is
reported back. -/
namespace SpanGauge.Browser

structure Desk where
  editor : Bytes
  openFault : Option Bytes := none
  copyFault : Option Bytes := none
  deriving DecidableEq, Repr

namespace Desk

def opens (d : Desk) (f : Finding) : Effect := Editor.opening d.editor f.path f.span.first

def perform (d : Desk) : Command → List Effect × Option Message
  | .edit f => ([d.opens f], some (.status (Bytes.of "opened " ++ f.file) d.openFault))
  | .copy target => ([.copy target], some (.status (Bytes.of "copied " ++ target) d.copyFault))
  | .quit | .later _ => ([], none)

end Desk

/-- A message, and after it the one that its command brings back. -/
def exchange (b : Browser) (d : Desk) (m : Message) : Browser × Option Command × List Effect :=
  match b.update m with
  | (b', some c) =>
    match d.perform c with
    | (effects, some reply) => ((b'.update reply).1, some c, effects)
    | (effects, none) => (b', some c, effects)
  | (b', none) => (b', none, [])

def after (b : Browser) (ms : List Message) : Browser := ms.foldl (fun b m => (b.update m).1) b

inductive Fault where
  | noFindings
  | opening (message : Bytes)
  deriving DecidableEq, Repr

def Fault.message : Fault → Bytes
  | .noFindings => Bytes.of "no functions to browse"
  | .opening m => m

def session (r : Report) (sources : List (Bytes × Bytes)) (c : Report.Columns) (d : Desk)
    (ms : List Message) : Option Fault × List Effect :=
  if r.list.isEmpty then (some .noFindings, [])
  else
    match ((start r sources c true).after ms).selected with
    | some f => (d.openFault.map .opening, [d.opens f])
    | none => (none, [])

end SpanGauge.Browser
