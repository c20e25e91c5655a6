import SpanGauge.Settings
import SpanGauge.FileTree
import SpanGauge.Text.Quoted

/-! Finding and reading the file with the settings. What reads the formats is given, so that
all that follows holds whatever it makes of a text. -/
namespace SpanGauge.Settings

inductive Fault where
  | unknownFormat (name : Bytes)
  | refused (r : FileTree.Refusal)
  /-- The text is malformed or holds no map. -/
  | malformed
  /-- A value has the wrong kind. -/
  | misfit
  deriving DecidableEq, Repr

def Fault.message : Fault → Bytes
  | .unknownFormat name => Bytes.of "Unsupported Config Type " ++ Text.quoted name
  | .refused r => r.message
  | .malformed => Bytes.of "While parsing config: malformed file"
  | .misfit => Bytes.of "decoding failed due to the following error(s)"

def formats : List String :=
  ["json", "toml", "yaml", "yml", "properties", "props", "prop", "hcl", "tfvars", "dotenv",
   "env", "ini"]

/-- Where the file is looked for when none is named: under the home folder first. -/
def folders (e : Environment) : List Bytes :=
  (match e.home? with
   | some home => [Path.join [home, Bytes.of ".config", Bytes.of "fnspan"], Path.join [home]]
   | none => []) ++ [Bytes.of "."]

def fileNames : List Bytes := (formats.map fun f => Bytes.of ("fnspan." ++ f)) ++ [Bytes.of "fnspan"]

def isFile (t : FileTree) (path : Bytes) : Bool :=
  match t.stat path with
  | .ok (.file _) => true
  | _ => false

def locate? (t : FileTree) (e : Environment) : Option Bytes :=
  ((folders e).flatMap fun f => fileNames.map fun n => Path.join [f, n]).find? (isFile t)

/-- What reads a file of each format; none for a text that is malformed or holds no map. -/
structure Decoders where
  yaml : Bytes → Option (List (Bytes × Data))
  json : Bytes → Option (List (Bytes × Data))
  toml : Bytes → Option (List (Bytes × Data))
  dotenv : Bytes → Option (List (Bytes × Data))

/-- The decoder of a format. Some of the formats that may be named have none. -/
def Decoders.of? (ds : Decoders) (format : Bytes) : Option (Bytes → Option (List (Bytes × Data))) :=
  if format == Bytes.of "yaml" || format == Bytes.of "yml" then some ds.yaml
  else if format == Bytes.of "json" then some ds.json
  else if format == Bytes.of "toml" then some ds.toml
  else if format == Bytes.of "dotenv" || format == Bytes.of "env" then some ds.dotenv
  else none

def entries? (ds : Decoders) (format text : Bytes) : Option Data :=
  (ds.of? format).bind fun decode => (decode text).map .map

def readFile (ds : Decoders) (t : FileTree) (format path : Bytes) : Except Fault Data :=
  match t.read path with
  | .error r => .error (.refused r)
  | .ok text =>
    match entries? ds format text with
    | some d => .ok (foldNames d)
    | none => .error .malformed

def file (ds : Decoders) (t : FileTree) (e : Environment) (named : Bytes) : Except Fault Data :=
  if named.isEmpty then
    match locate? t e with
    | some path => readFile ds t (Bytes.of "yaml") path
    | none => .ok (.map [])
  else
    let format := (Path.extension named).drop 1
    if formats.any fun f => Bytes.of f == format then readFile ds t format named
    else .error (.unknownFormat format)

def load (ds : Decoders) (t : FileTree) (l : Layers) (named : Bytes) :
    Layers × Except Fault Settings :=
  match file ds t l.environment named with
  | .error f => (l, .error f)
  | .ok d =>
    let full := { l with file := d }
    match full.checked? with
    | some s => (full, .ok s)
    | none => (full, .error .misfit)

end SpanGauge.Settings
