import SpanGauge.Program
import SpanGauge.Settings.Decoders

/-! The program as a process: it loads the files that a run can reach, runs, and writes
what the run prints. -/
namespace SpanGauge

def textOf (b : Bytes) : String := (String.fromUTF8? ⟨b.toArray⟩).getD ""

/-- The entry behind a path, down to a depth. What cannot be read is left out. -/
def loadNode : Nat → IO.FS.DirEntry → IO (Option Node)
  | 0, _ => pure none
  | depth + 1, e => do
    try
      if ← e.path.isDir then
        let found ← (← e.path.readDir).toList.mapM fun c => do
          pure (Bytes.of c.fileName, ← loadNode depth c)
        let kept := found.filterMap fun c => c.2.map fun n => (c.1, n)
        pure (some (.folder (kept.mergeSort fun a b => Bytes.le a.1 b.1)))
      else pure (some (.file (← IO.FS.readBinFile e.path).toList))
    catch _ => pure none

def absolute (here path : Bytes) : Bytes :=
  if Path.isRooted path then Path.clean path else Path.join [here, path]

def loadAt (depth : Nat) (here : Bytes) (t : FileTree) (path : Bytes) : IO FileTree := do
  let full := absolute here path
  let names := (Bytes.splitAt Path.slash full).filter fun c => !c.isEmpty
  match ← loadNode depth ⟨textOf full, ""⟩ with
  | some n => pure { t with top := t.top.insert names n }
  | none => pure t

/-- All variables of the process where they can be read, and else those that carry settings. -/
def loadEnvironment : IO Environment := do
  try
    let block ← IO.FS.readBinFile "/proc/self/environ"
    pure ((Bytes.splitAt 0 block.toList).filterMap fun v => Bytes.splitFirst? (byte '=') v)
  catch _ =>
    let found ← Settings.Key.carriers.mapM fun name => do
      pure ((← IO.getEnv (textOf name)).map fun value => (name, Bytes.of value))
    pure (found.filterMap id)

/-- The files a run can reach: those below the folder it starts in, those that are named,
and the places of the settings. -/
def loadTree (env : Environment) (arguments : List Bytes) : IO FileTree := do
  let here := Bytes.of (toString (← IO.currentDir))
  let start := (Bytes.splitAt Path.slash here).filter fun c => !c.isEmpty
  let bare : FileTree := ⟨(Node.folder []).insert start (.folder []), start⟩
  let depth := 64
  let settings := (Settings.folders env).flatMap fun f => Settings.fileNames.map fun n => Path.join [f, n]
  let t ← loadAt depth here bare here
  let t ← arguments.foldlM (loadAt depth here) t
  settings.foldlM (loadAt 1 here) t

def runProcess (arguments : List String) : IO UInt32 := do
  let begun ← IO.monoMsNow
  let args := arguments.map Bytes.of
  let env ← loadEnvironment
  let tree ← loadTree env args
  let input ← if arguments.contains "-" then (·.toList) <$> IO.FS.readBinFile "/dev/stdin" else pure []
  let elapsed := (← IO.monoMsNow) - begun
  let o := Program.run
    { tree := tree, decoders := .standard env, environment := env, input := input, run := decimal begun
      elapsed := decimal elapsed ++ Bytes.of "ms", extractTime := Bytes.of "0.000"
      memory := Bytes.of "not measured" } args
  (← IO.getStdout).write ⟨o.out.toArray⟩
  (← IO.getStderr).write ⟨o.allErr.toArray⟩
  pure o.ending.status.toUInt32

end SpanGauge

def main (arguments : List String) : IO UInt32 := SpanGauge.runProcess arguments
