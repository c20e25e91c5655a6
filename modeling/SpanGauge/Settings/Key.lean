import SpanGauge.Data

/-! The settings of a run: their names, and what holds where nothing is said. -/
namespace SpanGauge

abbrev Environment := List (Bytes × Bytes)

/-- The value of a variable; an empty one is as good as none. -/
def Environment.get? (e : Environment) (name : Bytes) : Option Bytes :=
  match e.find? fun v => v.1 == name with
  | some (_, value) => if value.isEmpty then none else some value
  | none => none

def Environment.home? (e : Environment) : Option Bytes := e.get? (Bytes.of "HOME")

namespace Settings

inductive Key where
  | path | maxLines | extensions | skipFolders | respectIgnore | maxBytes | workers | allow
  | output | showAll | failOnViolation | editor | shell
  | colourPath | colourName | colourViolation | colourExcused | colourDim | colourBorder
  | colourCursor | colourSelected
  | columnGap | columnLocation | columnName
  | logLevel | logFormat
  deriving DecidableEq, Repr

namespace Key

def all : List Key :=
  [.path, .maxLines, .extensions, .skipFolders, .respectIgnore, .maxBytes, .workers, .allow,
   .output, .showAll, .failOnViolation, .editor, .shell, .colourPath, .colourName,
   .colourViolation, .colourExcused, .colourDim, .colourBorder, .colourCursor, .colourSelected,
   .columnGap, .columnLocation, .columnName, .logLevel, .logFormat]

def names : Key → List String
  | .path => ["path"]
  | .maxLines => ["max_lines"]
  | .extensions => ["extensions"]
  | .skipFolders => ["skip_dirs"]
  | .respectIgnore => ["respect_gitignore"]
  | .maxBytes => ["max_file_bytes"]
  | .workers => ["workers"]
  | .allow => ["allow"]
  | .output => ["output"]
  | .showAll => ["show_all"]
  | .failOnViolation => ["fail_on_violation"]
  | .editor => ["editor"]
  | .shell => ["shell"]
  | .colourPath => ["color_path"]
  | .colourName => ["color_name"]
  | .colourViolation => ["color_violation"]
  | .colourExcused => ["color_excused"]
  | .colourDim => ["color_dim"]
  | .colourBorder => ["color_border"]
  | .colourCursor => ["color_cursor"]
  | .colourSelected => ["color_selected"]
  | .columnGap => ["column_gap"]
  | .columnLocation => ["column_location"]
  | .columnName => ["column_name"]
  | .logLevel => ["log", "level"]
  | .logFormat => ["log", "format"]

def route (k : Key) : List Bytes := k.names.map Bytes.of

def carrier (path : List Bytes) : Bytes :=
  Bytes.of "FNSPAN_" ++ Bytes.upperAscii (Bytes.join [byte '_'] path)

def carriers : List Bytes :=
  ["HOME", "VISUAL", "EDITOR", "SHELL", "FNSPAN_LOG"].map Bytes.of ++ all.map fun k => carrier k.route

def texts (items : List String) : Data := .list (items.map fun s => .text (Bytes.of s))

def usualExtensions : List String := [".js", ".jsx", ".mjs", ".cjs", ".ts", ".tsx"]

def usualSkips : List String := ["node_modules", ".git", "dist", "build", "coverage", ".next", "out"]

def usualEditor (e : Environment) : Bytes :=
  ((e.get? (Bytes.of "VISUAL")).orElse fun _ => e.get? (Bytes.of "EDITOR")).getD (Bytes.of "vi")

def usualShell (e : Environment) : Bytes := (e.get? (Bytes.of "SHELL")).getD (Bytes.of "/bin/sh")

def usual (e : Environment) (processors : Nat) : Key → Data
  | .path => .text (Bytes.of ".")
  | .maxLines => .int 50
  | .extensions => texts usualExtensions
  | .skipFolders => texts usualSkips
  | .respectIgnore => .bool true
  | .maxBytes => .int 2097152
  | .workers => .int processors
  | .allow => .list []
  | .output => .text (Bytes.of "text")
  | .showAll => .bool false
  | .failOnViolation => .bool true
  | .editor => .text (usualEditor e)
  | .shell => .text (usualShell e)
  | .colourPath => .text (Bytes.of "36")
  | .colourName => .text (Bytes.of "97")
  | .colourViolation => .text (Bytes.of "31")
  | .colourExcused => .text (Bytes.of "33")
  | .colourDim => .text (Bytes.of "241")
  | .colourBorder => .text (Bytes.of "240")
  | .colourCursor => .text (Bytes.of "212")
  | .colourSelected => .text (Bytes.of "236")
  | .columnGap => .int 2
  | .columnLocation => .int 48
  | .columnName => .int 32
  | .logLevel => .text (Bytes.of "info")
  | .logFormat => .text (Bytes.of "text")

end Key

end Settings

end SpanGauge
