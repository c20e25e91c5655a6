import SpanGauge.Report.Text
import SpanGauge.Report.Json
import SpanGauge.Report.Yaml
import SpanGauge.Log.Level

/-! Writing a report in the format that is asked for. -/
namespace SpanGauge.Report

inductive Format where
  | text
  | json
  | yaml
  deriving DecidableEq, Repr

structure UnknownFormat where
  name : Bytes
  deriving DecidableEq, Repr

def UnknownFormat.message (f : UnknownFormat) : Bytes :=
  Bytes.of "unknown output format " ++ Text.quoted f.name ++ Bytes.of " (supported: text, json, yaml)"

def Format.parse (name : Bytes) : Except UnknownFormat Format :=
  let s := Log.folded name
  if s.isEmpty || s == Bytes.of "text" then .ok .text
  else if s == Bytes.of "json" then .ok .json
  else if s == Bytes.of "yaml" then .ok .yaml
  else .error ⟨name⟩

def write (r : Report) (format : Bytes) (t : Theme) (p : Style.Profile) (c : Columns) :
    Except UnknownFormat Bytes :=
  match Format.parse format with
  | .error f => .error f
  | .ok .text => .ok (r.textForm t p c)
  | .ok .json => .ok r.toJson.pretty
  | .ok .yaml => .ok r.toYaml

end SpanGauge.Report
