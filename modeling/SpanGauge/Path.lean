import SpanGauge.Text.Case

/-! Slash-separated paths, as texts. -/
namespace SpanGauge.Path

def slash : UInt8 := byte '/'
def dot : Bytes := Bytes.of "."
def dotdot : Bytes := Bytes.of ".."

def isRooted (p : Bytes) : Bool := p.head? == some slash

def keep (rooted : Bool) (kept : List Bytes) (c : Bytes) : List Bytes :=
  if c.isEmpty || c == dot then kept
  else if c == dotdot then
    match kept with
    | [] => if rooted then [] else [c]
    | k :: ks => if k == dotdot then c :: kept else ks
  else c :: kept

/-- The shortest equivalent path: no empty or dot components, and double dots only at
the front of a relative path. -/
def clean (p : Bytes) : Bytes :=
  let rooted := isRooted p
  let body := Bytes.join [slash] ((Bytes.splitAt slash p).foldl (keep rooted) []).reverse
  if rooted then slash :: body else if body.isEmpty then dot else body

/-- Components joined by slashes and cleaned; empty ones do not count. -/
def join (parts : List Bytes) : Bytes :=
  match parts.filter fun p => !p.isEmpty with
  | [] => []
  | ps => clean (Bytes.join [slash] ps)

def last (p : Bytes) : Bytes := (p.reverse.takeWhile (· != slash)).reverse

/-- The last component: trailing slashes do not count. -/
def base (p : Bytes) : Bytes :=
  let q := (p.reverse.dropWhile (· == slash)).reverse
  if p.isEmpty then dot else if q.isEmpty then [slash] else last q

def extension (p : Bytes) : Bytes :=
  match Bytes.splitLast? (byte '.') (last p) with
  | some (_, e) => byte '.' :: e
  | none => []

end SpanGauge.Path
