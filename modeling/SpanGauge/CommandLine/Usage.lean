import SpanGauge.CommandLine.Command

/-! Help texts. -/
namespace SpanGauge.CommandLine

def Flag.Kind.label : Flag.Kind → String
  | .switch => ""
  | .whole => " int"
  | .text => " string"
  | .texts => " stringArray"

def Flag.head (f : Flag) : String :=
  (match f.short with
   | some c => "  -" ++ String.singleton c ++ ", --"
   | none => "      --") ++ f.long ++ f.kind.label

def spaces (n : Nat) : String := String.ofList (List.replicate n ' ')

def flagTable (flags : List Flag) : List String :=
  let widest := (flags.map fun f => f.head.length).foldl max 0
  (flags.mergeSort fun a b => decide (a.long ≤ b.long)).map fun f =>
    f.head ++ spaces (widest - f.head.length + 3) ++ f.usage

namespace Command

def short : Command → String
  | .scan => "Find functions that run too long"
  | .extract => "Print the function spans of one file as JSON"
  | .help => "Help about any command"
  | .completion => "Generate the autocompletion script for the specified shell"

def long : Command → List String
  | .scan =>
    ["Scans JavaScript and TypeScript style sources for function",
     "declarations, arrow functions and methods, measures how many lines each",
     "one spans and reports the ones over the limit.",
     "",
     "Exits with status 1 when a function over the limit is not allowed."]
  | .extract =>
    ["Prints every function span found in a single source file as a JSON",
     "array, in the order the functions close. Use \"-\" to read standard input."]
  | .help =>
    ["Help provides help for any command in the application.",
     "Simply type fnspan help [path to command] for full details."]
  | .completion =>
    ["Generate the autocompletion script for fnspan for the specified shell.",
     "See each sub-command's help for details on how to use the generated script."]

def usageLines : Command → List String
  | .scan => ["  fnspan [path...] [flags]", "  fnspan [command]"]
  | .extract => ["  fnspan extract <file> [flags]"]
  | .help => ["  fnspan help [command] [flags]"]
  | .completion => ["  fnspan completion [command]"]

def listed : Command → List (String × String)
  | .scan => Command.scan.children.map fun c => (c.name, c.short)
  | .completion =>
    ["bash", "fish", "powershell", "zsh"].map fun s =>
      (s, "Generate the autocompletion script for " ++ s)
  | _ => []

def path (c : Command) : String := if c = .scan then c.name else "fnspan " ++ c.name

def helpLines (c : Command) : List String :=
  let own := if c = .scan then c.flags else [c.helpFlag]
  let commands := c.listed
  c.long ++ ["", "Usage:"] ++ c.usageLines ++
    (if commands.isEmpty then []
     else ["", "Available Commands:"] ++
       commands.map fun (n, s) => "  " ++ n ++ spaces (11 - n.length) ++ " " ++ s) ++
    ["", "Flags:"] ++ flagTable own ++
    (if c = .scan then [] else ["", "Global Flags:"] ++ flagTable shared) ++
    (if commands.isEmpty then []
     else ["", "Use \"" ++ c.path ++ " [command] --help\" for more information about a command."])

def helpText (c : Command) : Bytes := c.helpLines.flatMap fun l => Bytes.of l ++ [byte '\n']

end Command

def versionText (version : String) : Bytes := Bytes.of ("fnspan version " ++ version ++ "\n")

end SpanGauge.CommandLine
