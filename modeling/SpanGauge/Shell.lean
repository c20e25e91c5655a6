import SpanGauge.Shell.Word
import SpanGauge.Text.Quoted
import SpanGauge.Text.Real

/-! Running a command line in a shell: lists and pipelines of commands that need
nothing but the standard streams. -/
namespace SpanGauge.Shell
open Text

inductive Signal where
  | hangup | interrupt | quit | abort | kill | user1 | user2 | pipe | alarm | terminate
  deriving DecidableEq, Repr

def Signal.table : List (Signal × Nat × String × String) :=
  [(.hangup, 1, "HUP", "hangup"), (.interrupt, 2, "INT", "interrupt"), (.quit, 3, "QUIT", "quit"),
   (.abort, 6, "ABRT", "aborted"), (.kill, 9, "KILL", "killed"),
   (.user1, 10, "USR1", "user defined signal 1"), (.user2, 12, "USR2", "user defined signal 2"),
   (.pipe, 13, "PIPE", "broken pipe"), (.alarm, 14, "ALRM", "alarm clock"),
   (.terminate, 15, "TERM", "terminated")]

def Signal.report (s : Signal) : String :=
  ((table.find? fun e => e.1 = s).map (·.2.2.2)).getD ""

def Signal.number (s : Signal) : Nat := ((table.find? fun e => e.1 = s).map (·.2.1)).getD 0

def Signal.parse? (name : Bytes) : Option Signal :=
  (table.find? fun e => decimal e.2.1 == name || Bytes.of e.2.2.1 == name ||
    Bytes.of ("SIG" ++ e.2.2.1) == name).map (·.1)

inductive Ending where
  | exit (status : Nat)
  | killed (s : Signal)
  deriving DecidableEq, Repr

def Ending.fault? : Ending → Option Bytes
  | .exit 0 => none
  | .exit n => some (Bytes.of "exit status " ++ decimal n)
  | .killed s => some (Bytes.of "signal: " ++ Bytes.of s.report)

structure State where
  name : Bytes
  input : Bytes := []
  out : Bytes := []
  err : Bytes := []
  status : Nat := 0
  bindings : List (Bytes × Bytes) := []
  ending : Option Ending := none
  deriving DecidableEq, Repr

namespace State

/-- The number of the shell as a process, which only its own commands see. -/
def self : Bytes := Bytes.of "1"

def value (s : State) (name : Bytes) : Bytes :=
  if name == [Reading.dollar] then self
  else if name == Bytes.of "?" then decimal s.status
  else if name == Bytes.of "#" then Bytes.of "0"
  else if name == Bytes.of "0" then s.name
  else ((s.bindings.find? fun v => v.1 == name).map (·.2)).getD []

def write (s : State) (t : Bytes) : State := { s with out := s.out ++ t }
def complain (s : State) (t : Bytes) : State := { s with err := s.err ++ t ++ [byte '\n'] }
def done (s : State) (status : Nat) : State := { s with status := status }

def diagnose (s : State) (t : Bytes) : State := s.complain (s.name ++ Bytes.of ": 1: " ++ t)

def expandFrom (s : State) : Word → Option Bytes → List Bytes → List Bytes
  | [], field, done => (match field with | some f => f :: done | none => done).reverse
  | .literal b :: w, field, done => expandFrom s w (some (field.getD [] ++ [b])) done
  | .value n true :: w, field, done => expandFrom s w (some (field.getD [] ++ s.value n)) done
  | .value n false :: w, field, done =>
    let blank (b : UInt8) : Bool := Reading.isBlank b || b == Reading.feed
    let (field', done') := (s.value n).foldl
      (fun (acc : Option Bytes × List Bytes) b =>
        if blank b then
          match acc.1 with
          | some f => (none, f :: acc.2)
          | none => acc
        else (some (acc.1.getD [] ++ [b]), acc.2)) (field, done)
    expandFrom s w field' done'

def expand (s : State) (w : Word) : List Bytes :=
  if w.isEmpty then [[]] else s.expandFrom w none []

end State

def escape? (b : UInt8) : Option UInt8 :=
  if b == byte 'n' then some 10
  else if b == byte 't' then some 9
  else if b == byte 'r' then some 13
  else if b == byte 'a' then some 7
  else if b == byte 'b' then some 8
  else if b == byte 'f' then some 12
  else if b == byte 'v' then some 11
  else if b == byte '\\' then some 92
  else none

def unescape : Bytes → Bytes
  | 92 :: b :: rest =>
    match escape? b with
    | some c => c :: unescape rest
    | none => 92 :: b :: unescape rest
  | b :: rest => b :: unescape rest
  | [] => []

def formatted : Bytes → List Bytes → Bytes × List Bytes
  | 37 :: 37 :: rest, args => let (t, a) := formatted rest args; (37 :: t, a)
  | 37 :: c :: rest, args =>
    let arg := args.head?.getD []
    let shown :=
      if c == byte 's' then some arg
      else if c == byte 'b' then some (unescape arg)
      else if c == byte 'c' then some (arg.take 1)
      else if c == byte 'd' then some (if arg.isEmpty then Bytes.of "0" else arg)
      else none
    match shown with
    | some s => let (t, a) := formatted rest args.tail; (s ++ t, a)
    | none => let (t, a) := formatted rest args; (37 :: c :: t, a)
  | 92 :: b :: rest, args =>
    let (t, a) := formatted rest args
    ((match escape? b with | some c => [c] | none => [92, b]) ++ t, a)
  | b :: rest, args => let (t, a) := formatted rest args; (b :: t, a)
  | [], args => ([], args)

/-- A format is used again while arguments are left and it takes some. -/
def printed (fmt : Bytes) : Nat → List Bytes → Bytes
  | 0, _ => []
  | fuel + 1, args =>
    let (t, left) := formatted fmt args
    if left.isEmpty || left.length = args.length then t else t ++ printed fmt fuel left

namespace State

def exit (s : State) (args : List Bytes) : State :=
  match args with
  | [] => { s with ending := some (.exit s.status) }
  | n :: _ =>
    if !n.isEmpty && n.all Bytes.isDigit then { s with ending := some (.exit (natOf n % 256)) }
    else
      { s.diagnose (Bytes.of "exit: Illegal number: " ++ n) with ending := some (.exit 2) }

def killCommand (s : State) (args : List Bytes) : State :=
  let (name, targets) :=
    match args with
    | a :: rest =>
      if a == Bytes.of "-s" then (rest.head?.getD [], rest.tail)
      else if a.head? == some (byte '-') then (a.drop 1, rest)
      else (Bytes.of "TERM", args)
    | [] => ([], [])
  match Signal.parse? name with
  | some signal =>
    if targets == [self] then { s with ending := some (.killed signal) } else s.done 1
  | none => s.done 1

def cat (s : State) (args : List Bytes) : State :=
  match args.filter fun a => a != Bytes.of "-" with
  | [] => { s.write s.input with input := [], status := 0 }
  | a :: _ => (s.complain (Bytes.of "cat: " ++ a ++ Bytes.of ": No such file or directory")).done 1

def echo (s : State) (args : List Bytes) : State :=
  let bare := args.head? == some (Bytes.of "-n")
  let shown := unescape (Bytes.join [byte ' '] (if bare then args.tail else args))
  (s.write (if bare then shown else shown ++ [byte '\n'])).done 0

def command (s : State) (fields : List Bytes) : State :=
  match fields with
  | [] => s.done 0
  | c :: args =>
    if c == Bytes.of "true" || c == Bytes.of ":" then s.done 0
    else if c == Bytes.of "false" then s.done 1
    else if c == Bytes.of "exit" then s.exit args
    else if c == Bytes.of "echo" then s.echo args
    else if c == Bytes.of "printf" then
      match args with
      | fmt :: rest => (s.write (printed fmt (rest.length + 1) rest)).done 0
      | [] => (s.diagnose (Bytes.of "printf: usage: printf format [arg ...]")).done 2
    else if c == Bytes.of "cat" then s.cat args
    else if c == Bytes.of "kill" then s.killCommand args
    else (s.diagnose (c ++ Bytes.of ": not found")).done 127

end State

inductive Target where
  | stream (n : Nat)
  | nowhere
  deriving DecidableEq, Repr

structure Command where
  words : List Word := []
  redirects : List (Nat × Target) := []
  deriving DecidableEq, Repr

def assignment? (w : Word) : Option (Bytes × Word) :=
  let name := w.takeWhile fun p =>
    match p with
    | .literal b => Reading.isNameByte b
    | _ => false
  match literal? name, w.drop name.length with
  | some n, .literal b :: value =>
    if b == byte '=' && !n.isEmpty && !(n.head?.map Bytes.isDigit).getD false then some (n, value)
    else none
  | _, _ => none

/-- Where a stream ends up: redirections take effect one after the other. -/
def target (rs : List (Nat × Target)) (n : Nat) : Target :=
  let after := rs.foldl (fun (f : Nat → Target) r =>
    let t := match r.2 with
      | .stream m => f m
      | .nowhere => .nowhere
    fun k => if k = r.1 then t else f k) .stream
  after n

def State.simple (s : State) (c : Command) : State :=
  match c.words.mapM assignment? with
  | some sets =>
    sets.foldl (fun s v => { s with bindings := (v.1, ((s.expand v.2).head?).getD []) :: s.bindings })
      (s.done 0)
  | none =>
    let inner := { s with out := [], err := [], input := if target c.redirects 0 = Target.nowhere then [] else s.input }
    let r := inner.command (c.words.flatMap s.expand)
    let sent (n : Nat) (t : Bytes) (s : State) : State :=
      match target c.redirects n with
      | .stream 1 => s.write t
      | .stream 2 => { s with err := s.err ++ t }
      | _ => s
    sent 2 r.err (sent 1 r.out { r with out := s.out, err := s.err })

/-- When a pipeline runs: always, or after a success or a failure. -/
inductive Link where
  | always
  | andThen
  | orElse
  deriving DecidableEq, Repr

structure Parse where
  lists : List (Link × List Command) := []
  link : Link := .always
  pipeline : List Command := []
  command : Command := {}
  open? : Option (Nat × Bool) := none
  mark : Option UInt8 := none
  deriving DecidableEq, Repr

namespace Parse

def closeCommand (p : Parse) : Parse :=
  if p.command.words.isEmpty && p.command.redirects.isEmpty then p
  else { p with pipeline := p.command :: p.pipeline, command := {} }

def closeList (p : Parse) (next : Link) : Parse :=
  let q := p.closeCommand
  { q with
    lists := if q.pipeline.isEmpty then q.lists else (q.link, q.pipeline.reverse) :: q.lists
    pipeline := []
    link := next }

/-- A target after a redirection: a digit behind an ampersand is a stream. -/
def aim (p : Parse) (stream : Nat) (joined : Bool) (w : Word) : Parse :=
  let t : Target :=
    match joined, literal? w with
    | true, some [d] => if Bytes.isDigit d then .stream (d.toNat - 48) else .nowhere
    | _, _ => .nowhere
  { p with
    command := { p.command with redirects := p.command.redirects ++ [(stream, t)] }
    open? := none }

def step (p : Parse) (t : Token) : Parse :=
  match p.open?, t with
  | some (n, _), .mark b => if b == byte '&' then { p with open? := some (n, true) } else { p with open? := none }
  | some (n, joined), .word w => p.aim n joined w
  | _, .redirect n _ => { p with open? := some (n, false), mark := none }
  | none, .word w =>
    { p with command := { p.command with words := p.command.words ++ [w] }, mark := none }
  | none, .mark b =>
    if b == byte '|' then
      if p.mark == some b then { p.closeList .orElse with mark := none }
      else { p.closeCommand with mark := some b }
    else if b == byte '&' then
      if p.mark == some b then { p with link := .andThen, mark := none }
      else { p.closeList .always with mark := some b }
    else if p.command.words.isEmpty && p.pipeline.isEmpty && p.link ≠ .always then { p with mark := none }
    else { p.closeList .always with mark := none }

end Parse

def lists (ts : List Token) : List (Link × List Command) :=
  ((ts.foldl Parse.step {}).closeList .always).lists.reverse

def State.pipe : State → List Command → State
  | s, [] => s
  | s, [c] => s.simple c
  | s, c :: cs =>
    let r := { s with out := [] }.simple c
    let t := State.pipe { s with input := r.out, err := r.err } cs
    { t with ending := none, input := [],
             status := match t.ending with
               | some (.exit n) => n
               | some (.killed g) => 128 + g.number
               | none => t.status }

def State.run : State → List (Link × List Command) → State
  | s, [] => s
  | s, (link, cs) :: rest =>
    if s.ending.isSome then s
    else if (link = .andThen && s.status ≠ 0) || (link = .orElse && s.status = 0) then s.run rest
    else (s.pipe cs).run rest

def execute (name line input : Bytes) : State :=
  let s : State := { name := name, input := input }
  match tokens? line with
  | some ts => s.run (lists ts)
  | none =>
    { s.diagnose (Bytes.of "Syntax error: Unterminated quoted string") with
      ending := some (.exit 2) }

inductive Fault where
  | noName
  | notFound (name : Bytes)
  | missing (path : Bytes)
  | refused (path : Bytes)
  | ended (e : Bytes)
  deriving DecidableEq, Repr

def Fault.message (f : Fault) : Bytes :=
  Bytes.of "shell error: " ++
    match f with
    | .noName => Bytes.of "exec: no command"
    | .notFound name =>
      Bytes.of "exec: " ++ Text.quoted name ++ Bytes.of ": executable file not found in $PATH"
    | .missing path => Bytes.of "fork/exec " ++ path ++ Bytes.of ": no such file or directory"
    | .refused path => Bytes.of "fork/exec " ++ path ++ Bytes.of ": permission denied"
    | .ended e => e

structure Outcome where
  fault : Option Fault
  out : Bytes := []
  err : Bytes := []
  deriving DecidableEq, Repr

def State.outcome (s : State) : Outcome :=
  { fault := ((s.ending.getD (.exit s.status)).fault?).map .ended, out := s.out, err := s.err }

/-- What stands in for a shell: one that reads the command line, or a program that takes
it as arguments. -/
inductive Interpreter where
  | shell
  | succeeding
  | failing
  | echoing
  deriving DecidableEq, Repr

def interpreters : List (String × Interpreter) :=
  [("sh", .shell), ("bash", .shell), ("dash", .shell), ("true", .succeeding), ("false", .failing),
   ("echo", .echoing)]

def programFolders : List String := ["/bin", "/usr/bin"]

/-- Folders of every system, which cannot be run. -/
def systemFolders : List String := ["/", "/bin", "/etc", "/tmp", "/usr", "/usr/bin"]

def interpreter? (name : Bytes) : Option Interpreter :=
  (interpreters.find? fun (n, _) =>
    Bytes.of n == name || programFolders.any fun f => Bytes.of (f ++ "/" ++ n) == name).map (·.2)

def run (shell line input : Bytes) : Outcome :=
  match interpreter? shell with
  | some .shell => (execute shell line input).outcome
  | some .succeeding => { fault := none }
  | some .failing => { fault := (Ending.fault? (.exit 1)).map .ended }
  | some .echoing => { fault := none, out := Bytes.of "-c " ++ line ++ [byte '\n'] }
  | none =>
    if shell.isEmpty then { fault := some .noName }
    else if !shell.has (byte '/') then { fault := some (.notFound shell) }
    else if systemFolders.any fun f => Bytes.of f == shell then { fault := some (.refused shell) }
    else { fault := some (.missing shell) }

end SpanGauge.Shell
