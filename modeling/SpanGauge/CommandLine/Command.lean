import SpanGauge.CommandLine.Flag

/-! The commands of the program, and which of them a command line asks for. -/
namespace SpanGauge.CommandLine

inductive Command where
  | scan
  | extract
  | help
  | completion
  deriving DecidableEq, Repr

namespace Command

def name : Command → String
  | .scan => "fnspan"
  | .extract => "extract"
  | .help => "help"
  | .completion => "completion"

def children : Command → List Command
  | .scan => [.completion, .extract, .help]
  | _ => []

def shared : List Flag :=
  [{ long := "config", kind := .text,
     usage := "Config file (default $HOME/.config/fnspan/fnspan.yaml)" },
   { long := "log-format", kind := .text, usage := "Log format: text, json" },
   { long := "log-level", kind := .text, usage := "Log level: debug, info, warn, error" }]

def scanFlags : List Flag :=
  [{ long := "all", short := some 'a', kind := .switch,
     usage := "List every function, not only the long ones" },
   { long := "allow", kind := .texts,
     usage := "Allow a file or function: glob or glob:function (repeatable)" },
   { long := "benchmark", short := some 'b', kind := .switch,
     usage := "Print scan statistics and exit" },
   { long := "interactive", short := some 'i', kind := .switch,
     usage := "Browse the findings interactively" },
   { long := "max-lines", short := some 'n', kind := .whole,
     usage := "Report functions longer than this many lines" },
   { long := "no-fail", kind := .switch, usage := "Exit 0 even when functions are over the limit" },
   { long := "output", short := some 'o', kind := .text, usage := "Output format: text, json, yaml" },
   { long := "workers", short := some 'w', kind := .whole, usage := "Files scanned in parallel" }]

def helpFlag (c : Command) : Flag :=
  { long := "help", short := some 'h', kind := .switch, usage := "help for " ++ c.name }

def versionFlag : Flag :=
  { long := "version", short := some 'v', kind := .switch, usage := "version for fnspan" }

/-- Flags known while the command is looked for. -/
def outerFlags : Command → List Flag
  | .scan => scanFlags ++ shared
  | _ => shared

def flags (c : Command) : List Flag :=
  c.helpFlag :: (if c = .scan then [versionFlag] else []) ++ c.outerFlags

/-- A flag that takes the next argument. One that is not known counts as such. -/
def takesNext (flags : List Flag) (a : Bytes) : Bool :=
  let known :=
    if isLong a then findLong? flags (a.drop 2) else findShort? flags ((a.drop 1).headD 0)
  isFlag a && !a.has (byte '=') && (isLong a || a.length = 2) &&
    (known.map fun f => f.kind != .switch).getD true

/-- The arguments before two dashes that are neither flags nor values of flags. A flag
before the last argument ends the search. -/
def bareArguments (flags : List Flag) : List Bytes → List Bytes
  | [] => []
  | a :: rest =>
    if isEnd a then []
    else if takesNext flags a then
      match rest with
      | _ :: b :: more => bareArguments flags (b :: more)
      | _ => []
    else if a.isEmpty || a.head? == some (byte '-') then bareArguments flags rest
    else a :: bareArguments flags rest

def without (flags : List Flag) (x : Bytes) : List Bytes → List Bytes
  | [] => []
  | a :: rest =>
    if isEnd a then a :: rest
    else if takesNext flags a then
      match rest with
      | b :: more => a :: b :: without flags x more
      | [] => [a]
    else if a.head? == some (byte '-') then a :: without flags x rest
    else if a == x then rest
    else a :: without flags x rest

def find (arguments : List Bytes) : Command × List Bytes :=
  let flags := Command.scan.outerFlags
  match bareArguments flags arguments with
  | [] => (.scan, arguments)
  | a :: _ =>
    match Command.scan.children.find? fun c => Bytes.of c.name == a with
    | some c => (c, without flags a arguments)
    | none => (.scan, arguments)

end Command

end SpanGauge.CommandLine
