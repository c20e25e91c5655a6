import SpanGauge.Report.Basic
import SpanGauge.Json

/-! The report as a JSON object. -/
namespace SpanGauge

def Span.toJson (s : Span) : Json :=
  .object [(Bytes.of "name", .text s.name), (Bytes.of "start_line", Json.int s.first),
    (Bytes.of "end_line", Json.int s.last), (Bytes.of "line_count", Json.int s.count)]

/-- The rule is left out when there is none. -/
def Finding.toJson (f : Finding) : Json :=
  .object ([(Bytes.of "file", .text f.file), (Bytes.of "path", .text f.path),
    (Bytes.of "span", f.span.toJson), (Bytes.of "exceeds", .bool f.exceeds),
    (Bytes.of "allowed", .bool f.allowed)] ++
    if f.rule.isEmpty then [] else [(Bytes.of "allow_rule", .text f.rule)])

def Report.toJson (r : Report) : Json :=
  .object [(Bytes.of "threshold", Json.int r.threshold), (Bytes.of "files", Json.int r.files),
    (Bytes.of "functions", Json.int r.functions), (Bytes.of "violations", Json.int r.violations),
    (Bytes.of "excused", Json.int r.excused),
    (Bytes.of "findings", match r.findings with
      | none => .null
      | some fs => .list (fs.map Finding.toJson))]

end SpanGauge
