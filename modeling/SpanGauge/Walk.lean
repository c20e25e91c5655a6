import SpanGauge.FileTree
import SpanGauge.Ignore
import SpanGauge.Analysis

/-! The walk through a file tree that finds the sources to scan. -/
namespace SpanGauge

structure Walk where
  extensions : List Bytes
  skipFolders : List Bytes
  respectIgnore : Bool
  maxBytes : Int
  deriving DecidableEq, Repr

inductive Walk.Fault where
  | root (r : FileTree.Refusal)
  | ignoreFile (r : FileTree.Refusal)
  | ignoreText (f : Ignore.Fault)
  | listing (r : FileTree.Refusal)
  | reading (path : Bytes) (r : FileTree.Refusal)
  | cancelled
  deriving DecidableEq, Repr

namespace Walk

def Fault.message : Fault → Bytes
  | .root r => Bytes.of "path error: " ++ r.message
  | .ignoreFile r => Bytes.of "loading .gitignore: " ++ r.message
  | .ignoreText f => Bytes.of "loading .gitignore: " ++ f.message
  | .listing r => r.message
  | .reading path r => Bytes.of "reading " ++ path ++ Bytes.of ": " ++ r.message
  | .cancelled => Bytes.of "context canceled"

/-- The files found so far and the log, the latest of each first. -/
structure State where
  files : List Source := []
  log : List Log.Entry := []

def State.note (s : State) (level : Log.Level) (message : String)
    (attrs : List (Bytes × Log.Value)) : State :=
  { s with log := Log.entry level message attrs :: s.log }

def sampleSize : Nat := 8192

def looksBinary (text : Bytes) : Bool := (text.take sampleSize).any (· == 0)

abbrev Outcome := Except (Fault × State) State

/-- Takes a file in, unless it is too large or binary. Its text is read by its path. -/
def takeFile (w : Walk) (t : FileTree) (s : State) (path relative : Bytes) (size : Nat) : Outcome :=
  if 0 < w.maxBytes && w.maxBytes < size then
    .ok (s.note Log.warn "skipping large file"
      [Log.text "path" relative, Log.int "bytes" size, Log.int "limit" w.maxBytes])
  else
    match t.read path with
    | .error r => .error (.reading path r, s)
    | .ok text =>
      if looksBinary text then
        .ok (s.note Log.warn "skipping binary file" [Log.text "path" relative])
      else .ok { s with files := ⟨path, relative, text⟩ :: s.files }

def wanted (w : Walk) (path : Bytes) : Bool :=
  (w.extensions.map Text.lower).contains (Text.lower (Path.extension path))

/-- One entry of a folder. Links and other special entries are passed over; a folder is
listed by its path, and `inside` goes through what it holds. -/
def entry (w : Walk) (t : FileTree) (ignore : Ignore)
    (inside : Bytes → Bytes → State → List (Bytes × Node) → Outcome) (path relative : Bytes)
    (s : State) (e : Bytes × Node) : Outcome :=
  let here := Path.join [path, e.1]
  let below := if relative.isEmpty then e.1 else relative ++ [byte '/'] ++ e.1
  match e.2 with
  | .link _ => .ok s
  | .file text =>
    if !w.wanted here then .ok s
    else if ignore.ignores below false then
      .ok (s.note Log.debug "skipping ignored file" [Log.text "path" below])
    else w.takeFile t s here below text.length
  | .folder _ =>
    if w.skipFolders.contains e.1 || ignore.ignores below true then
      .ok (s.note Log.debug "skipping directory" [Log.text "path" below])
    else
      match t.list here with
      | .error r => .error (.listing r, s)
      | .ok es => inside here below s es

/-- The entries of a folder in order, down to a depth. What lies deeper has a path that is
too long to be opened. -/
def folder (w : Walk) (t : FileTree) (ignore : Ignore) :
    Nat → Bytes → Bytes → State → List (Bytes × Node) → Outcome
  | 0, path, _, s, _ => .error (.listing ⟨"open", path, .nameTooLong⟩, s)
  | depth + 1, path, relative, s, es =>
    es.foldlM (w.entry t ignore (w.folder t ignore depth) path relative) s

def loadIgnore (t : FileTree) (root : Bytes) : Except Fault Ignore :=
  match t.read (Path.join [root, Bytes.of ".gitignore"]) with
  | .ok text =>
    match Ignore.parse text with
    | .ok g => .ok g
    | .error f => .error (.ignoreText f)
  | .error r => if r.cause = .missing then .ok {} else .error (.ignoreFile r)

def byRelative (a b : Source) : Bool := Bytes.le a.relative b.relative

/-- A walk from a folder. A root that is itself a link yields nothing. -/
def fromFolder (w : Walk) (t : FileTree) (cancelled : Bool) (root : Bytes)
    (es : List (Bytes × Node)) : Except Fault (List Source) × List Log.Entry :=
  match (if w.respectIgnore then loadIgnore t root else .ok {} : Except Fault Ignore) with
  | .error f => (.error f, [])
  | .ok ignore =>
    let s : State :=
      if w.respectIgnore then
        State.note {} Log.debug "loaded gitignore"
          [Log.text "root" root, Log.int "patterns" ignore.lines.length]
      else {}
    if cancelled then (.error .cancelled, s.log.reverse)
    else
      match t.node false root with
      | .ok (.link _) => (.ok [], s.log.reverse)
      | _ =>
        match w.folder t ignore (FileTree.longestPath + 1) root [] s es with
        | .error (f, done) => (.error f, done.log.reverse)
        | .ok done => (.ok (done.files.reverse.mergeSort byRelative), done.log.reverse)

/-- The sources below a root in the order of their relative paths. A root that is a
file is taken whatever its extension. -/
def run (w : Walk) (t : FileTree) (cancelled : Bool) (root : Bytes) :
    Except Fault (List Source) × List Log.Entry :=
  match t.stat root with
  | .error r => (.error (.root r), [])
  | .ok (.folder es) => w.fromFolder t cancelled root es
  | .ok (.file text) =>
    match w.takeFile t {} root (Path.clean root) text.length with
    | .error (f, s) => (.error f, s.log.reverse)
    | .ok s => (.ok s.files.reverse, s.log.reverse)
  | .ok (.link _) => (.ok [], [])

/-- The sources of which no earlier one has the same cleaned path. -/
def distinct (seen : List Bytes) : List Source → List Source
  | [] => []
  | f :: fs =>
    let key := Path.clean f.path
    if seen.contains key then distinct seen fs else f :: distinct (key :: seen) fs

def gather (w : Walk) (t : FileTree) (cancelled : Bool) :
    List Bytes → Except Fault (List Source) × List Log.Entry
  | [] => (.ok [], [])
  | root :: roots =>
    match w.run t cancelled root with
    | (.error f, log) => (.error f, log)
    | (.ok files, log) =>
      match w.gather t cancelled roots with
      | (.error f, more) => (.error f, log ++ more)
      | (.ok rest, more) => (.ok (files ++ rest), log ++ more)

def runAll (w : Walk) (t : FileTree) (cancelled : Bool) (roots : List Bytes) :
    Except Fault (List Source) × List Log.Entry :=
  match w.gather t cancelled roots with
  | (.ok files, log) => (.ok (distinct [] files), log)
  | (.error f, log) => (.error f, log)

end Walk

end SpanGauge
