import SpanGauge.Settings.Layers
import SpanGauge.Text.Blank
import SpanGauge.Path
import SpanGauge.Report.Text

/-! The settings of a run as values. The plain reading takes every layer as it comes and
falls back to an empty value; the checked reading refuses a value of the wrong kind. -/
namespace SpanGauge

structure Settings where
  path : Bytes
  maxLines : Int
  extensions : List Bytes
  skipFolders : List Bytes
  respectIgnore : Bool
  maxBytes : Int
  workers : Int
  allow : List Bytes
  output : Bytes
  showAll : Bool
  failOnViolation : Bool
  editor : Bytes
  shell : Bytes
  colours : Theme.Colours
  columns : Report.Columns
  logLevel : Bytes
  logFormat : Bytes
  deriving DecidableEq, Repr

namespace Settings

def expandHome (e : Environment) (path : Bytes) : Bytes :=
  match path with
  | b :: rest =>
    if b == byte '~' then
      match e.home? with
      | some home => Path.join [home, rest]
      | none => path
    else path
  | [] => []

/-- An extension in lower case with a leading dot; a blank one does not count. -/
def extensionOf? (s : Bytes) : Option Bytes :=
  match Text.lower (Text.trim s) with
  | [] => none
  | b :: rest => some (if b == byte '.' then b :: rest else byte '.' :: b :: rest)

def extensionsOf (given : List Bytes) : List Bytes :=
  if given.isEmpty then Key.usualExtensions.map Bytes.of else given.filterMap extensionOf?

namespace Layers

def int (l : Layers) (k : Key) : Int := ((l.find? k).map Data.toInt).getD 0
def bool (l : Layers) (k : Key) : Bool := ((l.find? k).map Data.toBool).getD false
def text (l : Layers) (k : Key) : Bytes := ((l.find? k).map Data.toText).getD []
def texts (l : Layers) (k : Key) : List Bytes := ((l.find? k).map Data.toTexts).getD []

def plain (l : Layers) : Settings where
  path := expandHome l.environment (l.text .path)
  maxLines := l.int .maxLines
  extensions := extensionsOf (l.texts .extensions)
  skipFolders := l.texts .skipFolders
  respectIgnore := l.bool .respectIgnore
  maxBytes := l.int .maxBytes
  workers := max 1 (l.int .workers)
  allow := l.texts .allow
  output := l.text .output
  showAll := l.bool .showAll
  failOnViolation := l.bool .failOnViolation
  editor := l.text .editor
  shell := l.text .shell
  colours :=
    { path := l.text .colourPath
      name := l.text .colourName
      violation := l.text .colourViolation
      excused := l.text .colourExcused
      dim := l.text .colourDim
      border := l.text .colourBorder
      cursor := l.text .colourCursor
      selected := l.text .colourSelected }
  columns :=
    { gap := l.int .columnGap
      location := l.int .columnLocation
      name := l.int .columnName }
  logLevel := l.text .logLevel
  logFormat := l.text .logFormat

def int? (l : Layers) (k : Key) : Option Int := (l.find? k).bind Data.int?
def bool? (l : Layers) (k : Key) : Option Bool := (l.find? k).bind Data.bool?
def text? (l : Layers) (k : Key) : Option Bytes := (l.find? k).bind Data.text?
def texts? (l : Layers) (k : Key) : Option (List Bytes) := (l.find? k).bind Data.texts?

def logEntry? (l : Layers) : Option Data :=
  (l.file.entries.find? fun e => e.1 == Bytes.of "log").map (·.2)

/-- A setting of the log. The entry that holds them can only be a map; an empty one
leaves what is usual, and nothing in the environment may take its place. -/
def logText? (l : Layers) (k : Key) : Option Bytes :=
  match l.logEntry? with
  | some .null =>
    if hiddenInEnvironment l.environment k.route then none
    else (k.usual l.environment l.processors).text?
  | some (.map _) | none =>
    match l.find? k with
    | some v => v.text?
    | none => some []
  | some _ => none

def checked? (l : Layers) : Option Settings := do
  return {
    path := ← l.text? .path
    maxLines := ← l.int? .maxLines
    extensions := ← l.texts? .extensions
    skipFolders := ← l.texts? .skipFolders
    respectIgnore := ← l.bool? .respectIgnore
    maxBytes := ← l.int? .maxBytes
    workers := ← l.int? .workers
    allow := ← l.texts? .allow
    output := ← l.text? .output
    showAll := ← l.bool? .showAll
    failOnViolation := ← l.bool? .failOnViolation
    editor := ← l.text? .editor
    shell := ← l.text? .shell
    colours :=
      { path := ← l.text? .colourPath
        name := ← l.text? .colourName
        violation := ← l.text? .colourViolation
        excused := ← l.text? .colourExcused
        dim := ← l.text? .colourDim
        border := ← l.text? .colourBorder
        cursor := ← l.text? .colourCursor
        selected := ← l.text? .colourSelected }
    columns :=
      { gap := ← l.int? .columnGap
        location := ← l.int? .columnLocation
        name := ← l.int? .columnName }
    logLevel := ← l.logText? .logLevel
    logFormat := ← l.logText? .logFormat }

end Layers

inductive Change where
  | output (format : Bytes)
  | maxLines (n : Int)
  | workers (n : Int)
  | showAll (all : Bool)
  | failOnViolation (fail : Bool)
  | addAllow (entries : List Bytes)
  deriving DecidableEq, Repr

def Change.onLayers (c : Change) (l : Layers) : Layers :=
  match c with
  | .output s => l.set .output (.text s)
  | .maxLines n => l.set .maxLines (.int n)
  | .workers n => l.set .workers (.int n)
  | .showAll b => l.set .showAll (.bool b)
  | .failOnViolation b => l.set .failOnViolation (.bool b)
  | .addAllow es => l.set .allow (.list ((l.plain.allow ++ es).map .text))

def Change.onSettings (c : Change) (l : Layers) (s : Settings) : Settings :=
  match c with
  | .output format => { s with output := format }
  | .maxLines n => { s with maxLines := n }
  | .workers n => { s with workers := n }
  | .showAll b => { s with showAll := b }
  | .failOnViolation b => { s with failOnViolation := b }
  | .addAllow es => { s with allow := l.plain.allow ++ es }

def history (l : Layers) (s : Settings) : List Change → List (Settings × Settings)
  | [] => [(l.plain, s)]
  | c :: cs => (l.plain, s) :: history (c.onLayers l) (c.onSettings l s) cs

end Settings

end SpanGauge
