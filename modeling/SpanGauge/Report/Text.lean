import SpanGauge.Report.Basic
import SpanGauge.Theme

/-! The report as a table of locations, names and lengths, with a summary line. -/
namespace SpanGauge

def Finding.location (f : Finding) : Bytes :=
  f.file ++ [byte ':'] ++ decimal f.span.first ++ [byte '-'] ++ decimal f.span.last

namespace Report

def plural (n : Int) (noun : Bytes) : Bytes :=
  if n = 1 then Bytes.of "1 " ++ noun else decimal n ++ [byte ' '] ++ noun ++ [byte 's']

def summary (r : Report) : Bytes :=
  plural r.violations (Bytes.of "violation") ++ Bytes.of ", " ++ decimal r.excused ++
    Bytes.of " excused, " ++ plural r.functions (Bytes.of "function") ++ Bytes.of " in " ++
    plural r.files (Bytes.of "file") ++ Bytes.of " (max " ++ decimal r.threshold ++
    Bytes.of " lines)"

/-- A text cut to at most `limit` bytes, the last three of them dots. Limits up to three
cut nothing. -/
def truncate (s : Bytes) (limit : Int) : Bytes :=
  if limit ≤ 3 || s.length ≤ limit then s
  else s.take (limit.toNat - 3) ++ Bytes.of "..."

def pad (s : Bytes) (limit : Int) : Bytes :=
  if limit ≤ 0 then s
  else
    let t := truncate s limit
    t ++ Bytes.replicate (limit.toNat - Text.cells t) ' '

/-- The widths asked for; zero or less asks for the usual one. -/
structure Columns where
  gap : Int := 0
  location : Int := 0
  name : Int := 0
  deriving DecidableEq, Repr

def orUsual (n usual : Int) : Int := if n ≤ 0 then usual else n

def Columns.fit (c : Columns) (fs : List Finding) : Columns :=
  let widest (f : Finding → Bytes) : Int := (fs.map fun x => ((f x).length : Int)).foldl max 0
  ⟨orUsual c.gap 2, min (widest Finding.location) (orUsual c.location 48),
    min (widest fun f => f.span.name) (orUsual c.name 32)⟩

def lengthStyle (t : Theme) (f : Finding) : Style :=
  if f.isViolation then t.violation else if f.allowed then t.excused else t.dim

def row (t : Theme) (p : Style.Profile) (c : Columns) (f : Finding) : Bytes :=
  let gap := Bytes.replicate c.gap.toNat ' '
  t.path.render p (pad f.location c.location) ++ gap ++
    t.name.render p (pad f.span.name c.name) ++ gap ++
    (lengthStyle t f).render p (decimal f.span.count ++ Bytes.of " lines") ++
    (if f.allowed then gap ++ t.dim.render p (Bytes.of "allowed by " ++ f.rule) else []) ++
    [byte '\n']

def textForm (r : Report) (t : Theme) (p : Style.Profile) (c : Columns) : Bytes :=
  r.list.flatMap (row t p (c.fit r.list)) ++ r.summary ++ [byte '\n']

end Report

end SpanGauge
