import SpanGauge.CommandLine.Usage
import SpanGauge.Settings.Load
import SpanGauge.Walk
import SpanGauge.Report.Writer
import SpanGauge.Log.Writer
import SpanGauge.Browser.Session

/-! The program: from a command line and the files it finds to what it prints and how
it ends. -/
namespace SpanGauge

structure World where
  tree : FileTree
  decoders : Settings.Decoders
  environment : Environment
  input : Bytes
  run : Bytes
  /-- What the clock and the memory meter show at the end: the time of the run, the time
  spent on sources, and the memory in use. -/
  elapsed : Bytes
  extractTime : Bytes
  memory : Bytes
  processors : Nat := 1
  messages : List Browser.Message := []

namespace Program
open CommandLine

def version : String := "0.1.0"

inductive Fault where
  | commandLine (f : CommandLine.Fault)
  | log (f : Log.Fault)
  | walk (f : Walk.Fault)
  | output (f : Report.UnknownFormat)
  | opening (r : FileTree.Refusal)
  | reading (r : FileTree.Refusal)
  | browser (f : Browser.Fault)
  deriving DecidableEq, Repr

def Fault.message : Fault → Bytes
  | .commandLine f => f.message
  | .log f => f.message
  | .walk f => f.message
  | .output f => f.message
  | .opening r => Bytes.of "path error: " ++ r.message
  | .reading r => Bytes.of "reading source: " ++ r.message
  | .browser f => f.message

inductive Ending where
  | success
  | violations
  | failure (f : Fault)
  deriving DecidableEq, Repr

def Ending.status : Ending → Nat
  | .success => 0
  | _ => 1

structure Outcome where
  out : Bytes := []
  err : Bytes := []
  ending : Ending := .success
  deriving DecidableEq, Repr

def Outcome.allErr (o : Outcome) : Bytes :=
  match o.ending with
  | .failure f => o.err ++ Bytes.of "Error: " ++ f.message ++ [byte '\n']
  | _ => o.err

def Outcome.behind (o : Outcome) (err : Bytes) : Outcome := { o with err := err ++ o.err }

def options (p : Parsed) : List (Settings.Key × Data) :=
  [("max-lines", Settings.Key.maxLines), ("output", .output), ("all", .showAll),
   ("workers", .workers), ("log-level", .logLevel), ("log-format", .logFormat)].filterMap
    fun (long, key) => (p.last? long).map fun v => (key,
      match v with
      | .switch b => Data.bool b
      | .whole n => .int n
      | .text s => .text s)

def layers (w : World) (p : Parsed) : Settings.Layers × Bytes :=
  let bare : Settings.Layers :=
    { options := options p, environment := w.environment, processors := w.processors }
  match Settings.load w.decoders w.tree bare ((p.text? "config").getD []) with
  | (l, .ok _) => (l, [])
  | (l, .error f) => (l, Bytes.of "Error loading config: " ++ f.message ++ [byte '\n'])

def logger (w : World) (l : Settings.Layers) (c : Command) : Except Fault (Log.Logger × Bytes) :=
  let s := l.plain
  match Log.Logger.ofNames s.logLevel s.logFormat with
  | .error f => .error (.log f)
  | .ok bare =>
    let logger := bare.forRun w.run
    .ok (logger, logger.write
      [Log.entry Log.debug "starting"
        [Log.text "version" (Bytes.of version), Log.text "command" (Bytes.of c.name)]])

/-- The text a source is read from: a dash is the input of the program. -/
def sourceText (w : World) (path : Bytes) : Except Fault Bytes :=
  if path == Bytes.of "-" then .ok w.input
  else
    match w.tree.read path with
    | .ok text => .ok text
    | .error r => .error (if r.action == "open" then .opening r else .reading r)

def extract (w : World) (l : Settings.Layers) (path : Bytes) : Outcome :=
  match logger w l .extract with
  | .error f => { ending := .failure f }
  | .ok (_, started) =>
    match sourceText w path with
    | .error f => { err := started, ending := .failure f }
    | .ok text => { out := (Json.list ((Span.extract text).map Span.toJson)).pretty, err := started }

def adjust (p : Parsed) (l : Settings.Layers) : Settings.Layers :=
  let failing := if p.switched "no-fail" then (Settings.Change.failOnViolation false).onLayers l else l
  match p.texts "allow" with
  | [] => failing
  | entries => (Settings.Change.addAllow entries).onLayers failing

def walkOf (s : Settings) : Walk := ⟨s.extensions, s.skipFolders, s.respectIgnore, s.maxBytes⟩

def analysisOf (s : Settings) : Analysis := ⟨s.maxLines, Allow.ofEntries s.allow, s.showAll⟩

def benchmark (w : World) (m : Metrics.Stats) : Bytes :=
  Bytes.of "Scanned " ++ decimal m.files ++ Bytes.of " files, " ++ decimal m.functions ++
    Bytes.of " functions in " ++ w.elapsed ++ Bytes.of " (extract " ++ w.extractTime ++
    Bytes.of "s)\nOver limit: " ++ decimal m.violations ++ Bytes.of " (" ++ decimal m.excused ++
    Bytes.of " excused), longest function: " ++ decimal m.longest ++ Bytes.of " lines\nMemory: " ++
    w.memory ++ [byte '\n']

def verdict (s : Settings) (r : Report) : Ending :=
  if r.failed && s.failOnViolation then .violations else .success

def browse (w : World) (s : Settings) (files : List Source) (r : Report) : Outcome :=
  let sources := files.map fun f => (f.path, f.text)
  match (Browser.session r sources s.columns { editor := s.editor } w.messages).1 with
  | some .noFindings => { out := r.summary ++ [byte '\n'], ending := verdict s r }
  | some f => { ending := .failure (.browser f) }
  | none => { ending := verdict s r }

def present (s : Settings) (r : Report) : Outcome :=
  match r.write s.output .plain .ascii s.columns with
  | .ok out => { out := out, ending := verdict s r }
  | .error f => { ending := .failure (.output f) }

def conclude (w : World) (p : Parsed) (s : Settings) (files : List Source) (r : Report) : Outcome :=
  if p.switched "benchmark" then
    let a := analysisOf s
    { out := benchmark w (Metrics.ofEvents (files.flatMap fun f => a.events f 0)).stats }
  else if p.switched "interactive" then browse w s files r
  else present s r

def scan (w : World) (p : Parsed) (given : Settings.Layers) : Outcome :=
  match logger w given .scan with
  | .error f => { ending := .failure f }
  | .ok (logger, started) =>
    let s := (adjust p given).plain
    let roots := if p.arguments.isEmpty then [s.path] else p.arguments
    match (walkOf s).runAll w.tree false roots with
    | (.error f, log) => { err := started ++ logger.write log, ending := .failure (.walk f) }
    | (.ok files, log) =>
      let a := analysisOf s
      let r := a.run files
      let found := Log.entry Log.debug "discovered files"
        [Log.int "count" files.length, (Bytes.of "paths", .list roots)]
      (conclude w p s files r).behind
        (started ++ logger.write (log ++ [found] ++ a.log files r))

def runCommand (w : World) (c : Command) (p : Parsed) : Outcome :=
  let (l, complaint) := layers w p
  let o : Outcome :=
    match c with
    | .scan => scan w p l
    | .extract =>
      match p.arguments with
      | [path] => extract w l path
      | as => { ending := .failure (.commandLine (.argumentCount 1 as.length)) }
    | .help => { out := (Command.find p.arguments).1.helpText }
    | .completion => {}
  o.behind complaint

/-- The whole program. Help and version come before anything is loaded. -/
def run (w : World) (arguments : List Bytes) : Outcome :=
  let (c, rest) := Command.find arguments
  match parse c.flags rest with
  | .error f => { ending := .failure (.commandLine f) }
  | .ok p =>
    if p.switched "help" || c = .completion then { out := c.helpText }
    else if p.switched "version" then { out := versionText version }
    else runCommand w c p

end Program

end SpanGauge
