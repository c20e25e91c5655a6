import SpanGauge.Proofs.Program.Verdict

/-! How the stages of a run decide its status. The first stage that returns an error after the
settings are loaded is the failure with which the run ends. An error of the settings themselves is
only told: the run goes on with the layers that are left, and these decide the rest. -/
namespace SpanGauge.Program

open CommandLine

structure Runs (arguments : List Bytes) (c : Command) (p : Parsed) : Prop where
  command : c = .scan ∨ c = .extract
  found : (Command.find arguments).1 = c
  parsed : parse c.flags (Command.find arguments).2 = .ok p
  no_help : p.switched "help" = false
  no_version : p.switched "version" = false

section Stages

variable (w : World) (p : Parsed)

def fileless : Settings.Layers :=
  { options := options p, environment := w.environment, processors := w.processors }

/-- Loading the settings returns an error: the file that is named is missing, or the file cannot
be read, parsed or decoded. -/
def Unloaded (f : Settings.Fault) : Prop :=
  (Settings.load w.decoders w.tree (fileless w p) ((p.text? "config").getD [])).2 = .error f

def Logged : Prop :=
  ∃ logger, Log.Logger.ofNames (settings w p).logLevel (settings w p).logFormat = .ok logger

def roots : List Bytes := if p.arguments.isEmpty then [(scanSettings w p).path] else p.arguments

def Walked (files : List Source) : Prop :=
  Logged w p ∧ ∃ log, (walkOf (scanSettings w p)).runAll w.tree false (roots w p) = (.ok files, log)

def reportOn (files : List Source) : Report := (analysisOf (scanSettings w p)).run files

def browsed (files : List Source) : Option Browser.Fault :=
  (Browser.session (reportOn w p files) (files.map fun f => (f.path, f.text))
    (scanSettings w p).columns { editor := (scanSettings w p).editor } w.messages).1

/-- A stage behind the settings is reached and returns an error. -/
inductive Fails : Command → Fault → Prop
  | arguments (count : p.arguments.length ≠ 1) :
      Fails .extract (.commandLine (.argumentCount 1 p.arguments.length))
  | log {c : Command} {f : Log.Fault} (count : c = .extract → p.arguments.length = 1)
      (failed : Log.Logger.ofNames (settings w p).logLevel (settings w p).logFormat = .error f) :
      Fails c (.log f)
  | source {path : Bytes} {f : Fault} (one : p.arguments = [path]) (logged : Logged w p)
      (failed : sourceText w path = .error f) : Fails .extract f
  | walk {f : Walk.Fault} {log : List Log.Entry} (logged : Logged w p)
      (failed : (walkOf (scanSettings w p)).runAll w.tree false (roots w p) = (.error f, log)) :
      Fails .scan (.walk f)
  | report {files : List Source} {f : Report.UnknownFormat} (walked : Walked w p files)
      (written : p.switched "benchmark" = false ∧ p.switched "interactive" = false)
      (failed : (reportOn w p files).write (scanSettings w p).output .plain .ascii
        (scanSettings w p).columns = .error f) : Fails .scan (.output f)
  | browser {files : List Source} {f : Browser.Fault} (walked : Walked w p files)
      (browses : p.switched "benchmark" = false ∧ p.switched "interactive" = true)
      (failed : browsed w p files = some f) (found : f ≠ .noFindings) : Fails .scan (.browser f)

/-- A scan that shows its report finds functions over the limit, and this is to fail. -/
def Over (c : Command) : Prop :=
  c = .scan ∧ p.switched "benchmark" = false ∧ (scanSettings w p).failOnViolation = true ∧
    ∃ files, Walked w p files ∧
      Violated (scanSettings w p).maxLines (scanSettings w p).allow files

end Stages

section Runs

variable {w : World} {arguments : List Bytes} {c : Command} {p : Parsed}

theorem Runs.run_eq (runs : Runs arguments c p) (w : World) : run w arguments = runCommand w c p := by
  obtain ⟨command, found, parsed, no_help, no_version⟩ := runs
  obtain ⟨rest, split⟩ : ∃ rest, Command.find arguments = (c, rest) := ⟨_, Prod.ext found rfl⟩
  rw [split] at parsed
  have other : ¬ c = .completion := by
    rcases command with rfl | rfl <;> decide
  simp only [run, split, parsed, no_help, no_version, other, decide_false, Bool.or_false,
    Bool.false_eq_true, if_false]

theorem runCommand_scan (w : World) (p : Parsed) :
    (runCommand w .scan p).ending = (scan w p (layers w p).1).ending := rfl

theorem runCommand_extract {path : Bytes} (one : p.arguments = [path]) (w : World) :
    (runCommand w .extract p).ending = (extract w (layers w p).1 path).ending := by
  simp only [runCommand, one, Outcome.behind_ending]

theorem runCommand_count (count : p.arguments.length ≠ 1) (w : World) :
    (runCommand w .extract p).ending =
      .failure (.commandLine (.argumentCount 1 p.arguments.length)) := by
  unfold runCommand
  split
  rename_i l complaint _
  match given : p.arguments with
  | [] => rfl
  | [path] => exact absurd (by rw [given]; rfl) count
  | _ :: _ :: _ => rfl

theorem unloaded_told {f : Settings.Fault} (unloaded : Unloaded w p f) (c : Command) :
    Bytes.of "Error loading config: " <+: (runCommand w c p).err := by
  have complaint : (layers w p).2 = Bytes.of "Error loading config: " ++ f.message ++ [byte '\n'] := by
    obtain ⟨l, loaded⟩ : ∃ l, Settings.load w.decoders w.tree (fileless w p)
        ((p.text? "config").getD []) = (l, .error f) := ⟨_, Prod.ext rfl unloaded⟩
    unfold fileless at loaded
    simp only [layers, loaded]
  unfold runCommand
  simp only [Outcome.behind, complaint, List.append_assoc]
  exact List.prefix_append _ _

end Runs

section Endings

variable {w : World} {p : Parsed}

theorem scan_of_log {f : Log.Fault}
    (failed : Log.Logger.ofNames (settings w p).logLevel (settings w p).logFormat = .error f) :
    (scan w p (layers w p).1).ending = .failure (.log f) := by
  unfold settings at failed
  simp only [scan, logger, failed]

theorem scan_of_walk {f : Walk.Fault} {log : List Log.Entry} (logged : Logged w p)
    (failed : (walkOf (scanSettings w p)).runAll w.tree false (roots w p) = (.error f, log)) :
    (scan w p (layers w p).1).ending = .failure (.walk f) := by
  obtain ⟨bare, logged⟩ := logged
  unfold settings at logged
  unfold roots at failed
  simp only [scan, logger, logged, adjust_plain, failed]

theorem scan_of_walked {files : List Source} (walked : Walked w p files) :
    (scan w p (layers w p).1).ending =
      (conclude w p (scanSettings w p) files (reportOn w p files)).ending := by
  obtain ⟨⟨bare, logged⟩, log, walked⟩ := walked
  unfold settings at logged
  unfold roots at walked
  simp only [scan, logger, logged, adjust_plain, walked, Outcome.behind_ending, reportOn]

theorem scan_stages (w : World) (p : Parsed) :
    (∃ f, Log.Logger.ofNames (settings w p).logLevel (settings w p).logFormat = .error f) ∨
    (Logged w p ∧ ∃ f log,
      (walkOf (scanSettings w p)).runAll w.tree false (roots w p) = (.error f, log)) ∨
    ∃ files, Walked w p files := by
  cases logged : Log.Logger.ofNames (settings w p).logLevel (settings w p).logFormat with
  | error f => exact .inl ⟨f, rfl⟩
  | ok logger =>
    right
    match walked : (walkOf (scanSettings w p)).runAll w.tree false (roots w p) with
    | (.error f, log) => exact .inl ⟨⟨logger, logged⟩, f, log, rfl⟩
    | (.ok files, log) => exact .inr ⟨files, ⟨logger, logged⟩, log, walked⟩

theorem extract_of_log {f : Log.Fault}
    (failed : Log.Logger.ofNames (settings w p).logLevel (settings w p).logFormat = .error f)
    (path : Bytes) : (extract w (layers w p).1 path).ending = .failure (.log f) := by
  unfold settings at failed
  simp only [extract, logger, failed]

theorem extract_of_logged (logged : Logged w p) (path : Bytes) :
    (extract w (layers w p).1 path).ending =
      match sourceText w path with
      | .error f => .failure f
      | .ok _ => .success := by
  obtain ⟨bare, logged⟩ := logged
  unfold settings at logged
  simp only [extract, logger, logged]
  cases sourceText w path <;> rfl

theorem conclude_ending (files : List Source) :
    (conclude w p (scanSettings w p) files (reportOn w p files)).ending =
      if p.switched "benchmark" then .success
      else if p.switched "interactive" then
        match browsed w p files with
        | none | some .noFindings => verdict (scanSettings w p) (reportOn w p files)
        | some f => .failure (.browser f)
      else
        match (reportOn w p files).write (scanSettings w p).output .plain .ascii
            (scanSettings w p).columns with
        | .error f => .failure (.output f)
        | .ok _ => verdict (scanSettings w p) (reportOn w p files) := by
  unfold conclude
  split
  · rfl
  · split
    · simp only [browse, browsed]
      split <;> rename_i result <;> simp only [result]
    · simp only [present]
      split <;> rename_i result <;> simp only [result]

theorem Walked.unique {files files' : List Source} (walked : Walked w p files)
    (walked' : Walked w p files') : files = files' := by
  obtain ⟨_, log, walked⟩ := walked
  obtain ⟨_, log', walked'⟩ := walked'
  cases walked.symm.trans walked'
  rfl

theorem verdict_over {files : List Source} (walked : Walked w p files)
    (shown : p.switched "benchmark" = false) :
    (Over w p .scan ∧ verdict (scanSettings w p) (reportOn w p files) = .violations) ∨
    (¬ Over w p .scan ∧ verdict (scanSettings w p) (reportOn w p files) = .success) := by
  have beyond : Over w p .scan ↔
      (reportOn w p files).failed = true ∧ (scanSettings w p).failOnViolation = true := by
    rw [reportOn, failed_iff_violated]
    constructor
    · rintro ⟨_, _, fails, files', walked', violated⟩
      cases walked.unique walked'
      exact ⟨violated, fails⟩
    · rintro ⟨violated, fails⟩
      exact ⟨rfl, shown, fails, files, walked, violated⟩
  rw [beyond]
  unfold verdict
  cases (reportOn w p files).failed <;> cases (scanSettings w p).failOnViolation <;> simp

theorem Fails.ending {c : Command} {f : Fault} (fails : Fails w p c f)
    (command : c = .scan ∨ c = .extract) : (runCommand w c p).ending = .failure f := by
  cases fails with
  | arguments count => exact runCommand_count count w
  | log count failed =>
    rcases command with rfl | rfl
    · rw [runCommand_scan, scan_of_log failed]
    · obtain ⟨path, one⟩ := List.length_eq_one_iff.mp (count rfl)
      rw [runCommand_extract one, extract_of_log failed]
  | source one logged failed => rw [runCommand_extract one, extract_of_logged logged, failed]
  | walk logged failed => rw [runCommand_scan, scan_of_walk logged failed]
  | report walked written failed =>
    rw [runCommand_scan, scan_of_walked walked, conclude_ending, written.1, written.2, failed]
    rfl
  | browser walked browses failed found =>
    rw [runCommand_scan, scan_of_walked walked, conclude_ending, browses.1, browses.2, failed]
    simp only [Bool.false_eq_true, if_false, if_true]

theorem ending_cases (w : World) (p : Parsed) {c : Command} (command : c = .scan ∨ c = .extract) :
    (∃ f, Fails w p c f) ∨
    (Over w p c ∧ (runCommand w c p).ending = .violations) ∨
    (¬ Over w p c ∧ (runCommand w c p).ending = .success) := by
  rcases command with rfl | rfl
  · rcases scan_stages w p with ⟨f, failed⟩ | ⟨logged, f, log, failed⟩ | ⟨files, walked⟩
    · exact .inl ⟨_, .log (by simp) failed⟩
    · exact .inl ⟨_, .walk logged failed⟩
    · rw [runCommand_scan, scan_of_walked walked, conclude_ending]
      cases shown : p.switched "benchmark" with
      | true => exact .inr (.inr ⟨fun beyond => absurd beyond.2.1 (by simp [shown]), rfl⟩)
      | false =>
        have verdict := verdict_over walked shown
        cases browses : p.switched "interactive" with
        | true =>
          cases result : browsed w p files with
          | none => exact .inr verdict
          | some f =>
            by_cases found : f = .noFindings
            · subst found
              exact .inr verdict
            · exact .inl ⟨_, .browser walked ⟨shown, browses⟩ result found⟩
        | false =>
          cases result : (reportOn w p files).write (scanSettings w p).output .plain .ascii
              (scanSettings w p).columns with
          | error f => exact .inl ⟨_, .report walked ⟨shown, browses⟩ result⟩
          | ok out => exact .inr verdict
  · have notScan : ¬ Over w p .extract := fun beyond => absurd beyond.1 (by decide)
    by_cases count : p.arguments.length = 1
    · obtain ⟨path, one⟩ := List.length_eq_one_iff.mp count
      cases logged : Log.Logger.ofNames (settings w p).logLevel (settings w p).logFormat with
      | error f => exact .inl ⟨_, .log (fun _ => count) logged⟩
      | ok logger =>
        rw [runCommand_extract one, extract_of_logged ⟨logger, logged⟩]
        cases result : sourceText w path with
        | error f => exact .inl ⟨_, .source one ⟨logger, logged⟩ result⟩
        | ok text => exact .inr (.inr ⟨notScan, rfl⟩)
    · exact .inl ⟨_, .arguments count⟩

end Endings

end SpanGauge.Program

namespace SpanGauge

open Program

/-- The status of a scan or an extraction is 1 exactly when the arguments, the log, the walk, the
source, the report or the browser fails, and then the run ends with that error, or when the scan is
over the limit; analysis has no error of its own. Settings that cannot be loaded are told on the
error stream, but of themselves they leave the status at 0. -/
theorem stages_decide_status (w : World) (arguments : List Bytes) (c : CommandLine.Command)
    (p : CommandLine.Parsed) (runs : Runs arguments c p) :
    (∀ f, Fails w p c f →
      (run w arguments).ending = .failure f ∧ (run w arguments).ending.status = 1) ∧
    ((run w arguments).ending.status = 1 ↔ (∃ f, Fails w p c f) ∨ Over w p c) ∧
    (∀ files, (analysisOf (scanSettings w p)).runUnless false files = .ok (reportOn w p files)) ∧
    ∀ f, Unloaded w p f →
      Bytes.of "Error loading config: " <+: (run w arguments).err ∧
        ((run w arguments).ending.status = 0 ↔ (∀ g, ¬ Fails w p c g) ∧ ¬ Over w p c) := by
  rw [runs.run_eq w]
  have fails : ∀ f, Fails w p c f → (runCommand w c p).ending = .failure f :=
    fun f failed => failed.ending runs.command
  have status : (runCommand w c p).ending.status = 1 ↔ (∃ f, Fails w p c f) ∨ Over w p c := by
    rcases ending_cases w p runs.command with ⟨f, failed⟩ | ⟨beyond, ending⟩ | ⟨within, ending⟩
    · exact ⟨fun _ => .inl ⟨f, failed⟩, fun _ => by rw [fails f failed]; rfl⟩
    · exact ⟨fun _ => .inr beyond, fun _ => by rw [ending]; rfl⟩
    · have none : ¬ ∃ f, Fails w p c f := by
        rintro ⟨f, failed⟩
        rw [fails f failed] at ending
        cases ending
      rw [ending]
      exact iff_of_false (by decide) (not_or_intro none within)
  refine ⟨?_, status, fun _ => rfl, ?_⟩
  · intro f failed
    exact ⟨fails f failed, by rw [fails f failed]; rfl⟩
  · intro f unloaded
    refine ⟨unloaded_told unloaded c, ?_⟩
    have other : (runCommand w c p).ending.status = 0 ↔ ¬ (runCommand w c p).ending.status = 1 := by
      cases (runCommand w c p).ending <;> simp [Ending.status]
    rw [other, status, not_or, not_exists]

def unsetWorld : World where
  tree := ⟨.folder [(Bytes.of "a.js", .file (Bytes.of "function f() \x7b \x7d"))], []⟩
  decoders := .jsonOnly
  environment := []
  input := []
  run := []
  elapsed := []
  extractTime := []
  memory := []

def unsetLine (root : String) : List Bytes := ["--config", "none.yaml", root].map Bytes.of

def unsetFlags (root : String) : CommandLine.Parsed where
  values := [("config", .text (Bytes.of "none.yaml"))]
  arguments := [Bytes.of root]

theorem unset_load (root : String) :
    Settings.load unsetWorld.decoders unsetWorld.tree (fileless unsetWorld (unsetFlags root))
        (Bytes.of "none.yaml") =
      (fileless unsetWorld (unsetFlags root),
        .error (.refused ⟨"open", Bytes.of "none.yaml", .missing⟩)) := by
  have refused : unsetWorld.tree.read (Bytes.of "none.yaml") =
      .error ⟨"open", Bytes.of "none.yaml", .missing⟩ := by decide +kernel
  have format : Settings.formats.any (fun f => Bytes.of f ==
      (Path.extension (Bytes.of "none.yaml")).drop 1) = true := by decide +kernel
  have file : Settings.file unsetWorld.decoders unsetWorld.tree
      (fileless unsetWorld (unsetFlags root)).environment (Bytes.of "none.yaml") =
        .error (.refused ⟨"open", Bytes.of "none.yaml", .missing⟩) := by
    simp only [Settings.file, format, Settings.readFile, refused]
    rfl
  rw [Settings.load, file]

theorem unset_unloaded (root : String) : Unloaded unsetWorld (unsetFlags root)
    (.refused ⟨"open", Bytes.of "none.yaml", .missing⟩) := by
  have named : ((unsetFlags root).text? "config").getD [] = Bytes.of "none.yaml" := rfl
  rw [Unloaded, named, unset_load]

theorem unset_logged (root : String) : Logged unsetWorld (unsetFlags root) := by
  have named : ((unsetFlags root).text? "config").getD [] = Bytes.of "none.yaml" := rfl
  have bare := unset_load root
  unfold fileless at bare
  have kept : settings unsetWorld (unsetFlags root) = ({} : Settings.Layers).plain := by
    simp only [settings, layers, named, bare]
    rfl
  have level : ({} : Settings.Layers).plain.logLevel = Bytes.of "info" := by decide +kernel
  have format : ({} : Settings.Layers).plain.logFormat = Bytes.of "text" := by decide +kernel
  rw [Logged, kept, level, format]
  exact usual_logged

/-- The root is missing too: the walk fails, and the run with it. -/
theorem missingRoot_fails :
    Bytes.of "Error loading config: " <+: (run unsetWorld (unsetLine "b.js")).err ∧
    (run unsetWorld (unsetLine "b.js")).ending =
      .failure (.walk (.root ⟨"stat", Bytes.of "b.js", .missing⟩)) ∧
    (run unsetWorld (unsetLine "b.js")).ending.status = 1 := by
  have runs : Runs (unsetLine "b.js") .scan (unsetFlags "b.js") :=
    ⟨.inl rfl, by decide +kernel, by decide +kernel, rfl, rfl⟩
  have missing : unsetWorld.tree.stat (Bytes.of "b.js") =
      .error ⟨"stat", Bytes.of "b.js", .missing⟩ := by decide +kernel
  have failed : (walkOf (scanSettings unsetWorld (unsetFlags "b.js"))).runAll unsetWorld.tree false
      (roots unsetWorld (unsetFlags "b.js")) =
        (.error (.root ⟨"stat", Bytes.of "b.js", .missing⟩), []) := by
    have roots : roots unsetWorld (unsetFlags "b.js") = [Bytes.of "b.js"] := rfl
    simp only [roots, Walk.runAll, Walk.gather, Walk.run, missing]
  obtain ⟨fails, _, _, unloaded⟩ :=
    stages_decide_status unsetWorld (unsetLine "b.js") .scan (unsetFlags "b.js") runs
  exact ⟨(unloaded _ (unset_unloaded "b.js")).1, fails _ (.walk (unset_logged "b.js") failed)⟩

/-- The file that is named is missing, and the status is still 0. -/
theorem missingSettings_pass :
    Runs (unsetLine "a.js") .scan (unsetFlags "a.js") ∧
    Unloaded unsetWorld (unsetFlags "a.js") (.refused ⟨"open", Bytes.of "none.yaml", .missing⟩) ∧
    (run unsetWorld (unsetLine "a.js")).ending.status = 0 := by
  have runs : Runs (unsetLine "a.js") .scan (unsetFlags "a.js") :=
    ⟨.inl rfl, by decide +kernel, by decide +kernel, rfl, rfl⟩
  refine ⟨runs, unset_unloaded "a.js", ?_⟩
  decide +kernel

end SpanGauge
