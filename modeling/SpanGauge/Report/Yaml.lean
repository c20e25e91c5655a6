import SpanGauge.Report.Basic
import SpanGauge.Yaml.Writer

/-! The report as a YAML document. -/
namespace SpanGauge

def Yaml.member (indent : Nat) (key : String) (value : Bytes) : Bytes :=
  Bytes.replicate indent ' ' ++ Bytes.of key ++ Bytes.of ": " ++ value

def Yaml.int (n : Int) : Bytes := decimal n ++ [byte '\n']
def Yaml.bool (b : Bool) : Bytes := Bytes.of (if b then "true\n" else "false\n")

open Yaml in
def Finding.toYaml (f : Finding) : Bytes :=
  Bytes.of "  - " ++ member 0 "file" (stringValue 6 f.file) ++
    member 4 "path" (stringValue 6 f.path) ++ Bytes.of "    span:\n" ++
    member 6 "name" (stringValue 8 f.span.name) ++ member 6 "start_line" (Yaml.int f.span.first) ++
    member 6 "end_line" (Yaml.int f.span.last) ++ member 6 "line_count" (Yaml.int f.span.count) ++
    member 4 "exceeds" (Yaml.bool f.exceeds) ++ member 4 "allowed" (Yaml.bool f.allowed) ++
    if f.rule.isEmpty then [] else member 4 "allow_rule" (stringValue 6 f.rule)

open Yaml in
def Report.toYaml (r : Report) : Bytes :=
  member 0 "threshold" (Yaml.int r.threshold) ++ member 0 "files" (Yaml.int r.files) ++
    member 0 "functions" (Yaml.int r.functions) ++ member 0 "violations" (Yaml.int r.violations) ++
    member 0 "excused" (Yaml.int r.excused) ++
    if r.list.isEmpty then Bytes.of "findings: []\n"
    else Bytes.of "findings:\n" ++ r.list.flatMap Finding.toYaml

end SpanGauge
