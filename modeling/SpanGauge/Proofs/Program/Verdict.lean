import SpanGauge.Program
import SpanGauge.Settings.Decoders
import SpanGauge.Proofs.Analysis.Exact
import SpanGauge.Proofs.Settings.Change

/-! The verdict of a scan. A value set in the run wins over all layers of settings, so the
flags of the scan change just the settings they name; with these, the program fails exactly
when some function over the limit is excused by no entry of the allow list. -/
namespace SpanGauge

namespace Allow

def Covers (entry path function : Bytes) : Prop :=
  Text.trim entry ≠ [] ∧
    (Rule.ofText (Text.trim entry)).covers (Bytes.dropLead path here) function = true

theorem find?_eq_none_iff {entries : List Bytes} {path function : Bytes} :
    (ofEntries entries).find? path function = none ↔
      ∀ entry ∈ entries, ¬ Covers entry path function := by
  rw [find?, List.find?_eq_none]
  constructor
  · rintro none entry member ⟨some, covers⟩
    refine none (Rule.ofText (Text.trim entry)) (List.mem_map_of_mem ?_) covers
    exact List.mem_filter.mpr ⟨List.mem_map_of_mem member, by simpa using some⟩
  · intro none rule member covers
    obtain ⟨trimmed, kept, rfl⟩ := List.mem_map.mp member
    obtain ⟨at_entry, some⟩ := List.mem_filter.mp kept
    obtain ⟨entry, at_list, rfl⟩ := List.mem_map.mp at_entry
    exact none entry at_list ⟨by simpa using some, covers⟩

end Allow

namespace Program
open CommandLine

def settings (w : World) (p : Parsed) : Settings := (layers w p).1.plain

/-- The settings of a scan. Its own flags switch the failure off and extend the allow list. -/
def scanSettings (w : World) (p : Parsed) : Settings :=
  { settings w p with
    failOnViolation := (settings w p).failOnViolation && !p.switched "no-fail"
    allow := (settings w p).allow ++ p.texts "allow" }

theorem adjust_plain (w : World) (p : Parsed) :
    (adjust p (layers w p).1).plain = scanSettings w p := by
  generalize given : (layers w p).1 = l
  have failing : (if p.switched "no-fail" then (Settings.Change.failOnViolation false).onLayers l
      else l).plain =
      { l.plain with failOnViolation := l.plain.failOnViolation && !p.switched "no-fail" } := by
    cases p.switched "no-fail" with
    | true =>
      simpa [Settings.Change.written] using
        Settings.Change.plain_onLayers (c := .failOnViolation false) trivial l
    | false => simp
  unfold adjust scanSettings settings
  rw [given]
  cases entries : p.texts "allow" with
  | nil => simpa using failing
  | cons e es =>
    have allowing := Settings.Change.plain_onLayers (c := .addAllow (e :: es)) trivial
      (if p.switched "no-fail" then (Settings.Change.failOnViolation false).onLayers l else l)
    simp only [allowing, Settings.Change.written, failing]

def Violated (limit : Int) (allow : List Bytes) (files : List Source) : Prop :=
  ∃ file ∈ files, ∃ span ∈ Span.extract file.text, limit < span.count ∧
    ∀ entry ∈ allow, ¬ Allow.Covers entry file.relative span.name

/-- A command line asks for a scan that ends in a report on these files, and nothing on the
way to it goes wrong. -/
structure Scanned (w : World) (arguments : List Bytes) (p : Parsed) (files : List Source) :
    Prop where
  command : (Command.find arguments).1 = .scan
  parsed : parse Command.scan.flags (Command.find arguments).2 = .ok p
  no_help : p.switched "help" = false
  no_version : p.switched "version" = false
  no_benchmark : p.switched "benchmark" = false
  no_interactive : p.switched "interactive" = false
  logged : ∃ logger, Log.Logger.ofNames (settings w p).logLevel (settings w p).logFormat = .ok logger
  walked : ∃ log, (walkOf (scanSettings w p)).runAll w.tree false
    (if p.arguments.isEmpty then [(scanSettings w p).path] else p.arguments) = (.ok files, log)
  written : ∃ out, ((analysisOf (scanSettings w p)).run files).write (scanSettings w p).output
    .plain .ascii (scanSettings w p).columns = .ok out

@[simp] theorem Outcome.behind_ending (o : Outcome) (err : Bytes) :
    (o.behind err).ending = o.ending := rfl

section Scanned

variable {w : World} {arguments : List Bytes} {p : Parsed} {files : List Source}

theorem Scanned.run_ending (h : Scanned w arguments p files) :
    (run w arguments).ending = (scan w p (layers w p).1).ending := by
  obtain ⟨rest, found⟩ : ∃ rest, Command.find arguments = (.scan, rest) :=
    ⟨_, Prod.ext h.command rfl⟩
  have parsed := h.parsed
  rw [found] at parsed
  simp only [run, found, parsed, h.no_help, h.no_version, Bool.false_or, decide_eq_true_eq,
    reduceCtorEq, Bool.false_eq_true, if_false, runCommand, Outcome.behind_ending]

theorem Scanned.ending (h : Scanned w arguments p files) :
    (run w arguments).ending =
      verdict (scanSettings w p) ((analysisOf (scanSettings w p)).run files) := by
  obtain ⟨bare, logged⟩ := h.logged
  obtain ⟨log, walked⟩ := h.walked
  obtain ⟨out, written⟩ := h.written
  unfold settings at logged
  rw [h.run_ending]
  simp only [scan, logger, logged, adjust_plain, walked, conclude, h.no_benchmark,
    h.no_interactive, Bool.false_eq_true, if_false, Outcome.behind_ending, present, written]

end Scanned

theorem verdict_status (s : Settings) (r : Report) :
    ((verdict s r).status = 1 ↔ r.failed = true ∧ s.failOnViolation = true) ∧
      ((verdict s r).status = 1 ∨ (verdict s r).status = 0) := by
  unfold verdict
  cases r.failed <;> cases s.failOnViolation <;> simp [Ending.status]

theorem failed_iff_violated (s : Settings) (files : List Source) :
    ((analysisOf s).run files).failed = true ↔ Violated s.maxLines s.allow files := by
  rw [Analysis.run_failed_iff]
  simp only [analysisOf, Allow.find?_eq_none_iff, Violated]

end Program

/-- The verdict of a scan is exact: the program ends with 1 exactly when failing is in force
and some function of the files is over the limit and not excused, and else with 0. -/
theorem scan_verdict (w : World) (arguments : List Bytes) (p : CommandLine.Parsed)
    (files : List Source) (scanned : Program.Scanned w arguments p files) :
    let s := Program.settings w p
    ((Program.run w arguments).ending.status = 1 ↔
      (s.failOnViolation = true ∧ p.switched "no-fail" = false) ∧
        Program.Violated s.maxLines (s.allow ++ p.texts "allow") files) ∧
    ((Program.run w arguments).ending.status = 1 ∨ (Program.run w arguments).ending.status = 0) := by
  intro s
  have fails : (Program.scanSettings w p).failOnViolation = true ↔
      s.failOnViolation = true ∧ p.switched "no-fail" = false := by
    simp [Program.scanSettings, s]
  obtain ⟨one, either⟩ := Program.verdict_status (Program.scanSettings w p)
    ((Program.analysisOf (Program.scanSettings w p)).run files)
  rw [scanned.ending]
  refine ⟨?_, either⟩
  rw [one, Program.failed_iff_violated, fails, and_comm]
  rfl

/-- A source of three functions. The file with the settings excuses `g`, and a flag `h`. -/
def excusedText : Bytes :=
  Bytes.of "function f() \x7b\n\x7d\nfunction g() \x7b\n\x7d\nfunction h() \x7b\n\x7d\n"

def excusedWorld : World where
  tree := ⟨.folder [(Bytes.of "a.js", .file excusedText),
    (Bytes.of "c.json", .file (Bytes.of "\x7b\"allow\":[\"*:g\"]\x7d"))], []⟩
  decoders := .jsonOnly
  environment := []
  input := []
  run := []
  elapsed := []
  extractTime := []
  memory := []

def excusedLine : List Bytes :=
  ["--config", "c.json", "-n", "1", "--allow", "a.js:h", "a.js"].map Bytes.of

def excusedFlags : CommandLine.Parsed where
  values := [("config", .text (Bytes.of "c.json")), ("max-lines", .whole 1),
    ("allow", .text (Bytes.of "a.js:h"))]
  arguments := [Bytes.of "a.js"]

def excusedLayers : Settings.Layers where
  options := [(.maxLines, .int 1)]
  file := .map [(Bytes.of "allow", .list [.text (Bytes.of "*:g")])]

def excusedFiles : List Source := [⟨Bytes.of "a.js", Bytes.of "a.js", excusedText⟩]

theorem excusedLine_parsed : CommandLine.parse CommandLine.Command.scan.flags
    (CommandLine.Command.find excusedLine).2 = .ok excusedFlags := by decide +kernel

theorem excusedWorld_settings :
    Program.settings excusedWorld excusedFlags = excusedLayers.plain := by
  decide +kernel

/- The level and the format that nobody has to name. -/
theorem usual_logged : ∃ logger,
    Log.Logger.ofNames (Bytes.of "info") (Bytes.of "text") = .ok logger := by
  have level : Log.Level.parse (Bytes.of "info") = .ok Log.info := by decide +kernel
  have format : Log.Format.parse (Bytes.of "text") = .ok .text := by decide +kernel
  simp only [Log.Logger.ofNames, level, format, Except.ok.injEq, exists_eq']

theorem excusedLayers_logged : ∃ logger,
    Log.Logger.ofNames excusedLayers.plain.logLevel excusedLayers.plain.logFormat = .ok logger := by
  have level : excusedLayers.plain.logLevel = Bytes.of "info" := by decide +kernel
  have format : excusedLayers.plain.logFormat = Bytes.of "text" := by decide +kernel
  rw [level, format]
  exact usual_logged

theorem excusedWorld_walked : ∃ log, (Program.walkOf excusedLayers.plain).runAll excusedWorld.tree
    false [Bytes.of "a.js"] = (.ok excusedFiles, log) := by
  have files : ((Program.walkOf excusedLayers.plain).runAll excusedWorld.tree false
      [Bytes.of "a.js"]).1 = .ok excusedFiles := by decide +kernel
  rw [← files]
  exact ⟨_, rfl⟩

theorem excusedWorld_written (r : Report) (c : Report.Columns) :
    ∃ out, r.write excusedLayers.plain.output .plain .ascii c = .ok out := by
  have output : excusedLayers.plain.output = Bytes.of "text" := by decide +kernel
  have format : Report.Format.parse (Bytes.of "text") = .ok .text := by decide +kernel
  simp only [Report.write, output, format, Except.ok.injEq, exists_eq']

theorem excusedWorld_scanned :
    Program.Scanned excusedWorld excusedLine excusedFlags excusedFiles where
  command := by decide +kernel
  parsed := excusedLine_parsed
  no_help := by decide +kernel
  no_version := by decide +kernel
  no_benchmark := by decide +kernel
  no_interactive := by decide +kernel
  logged := by
    rw [excusedWorld_settings]
    exact excusedLayers_logged
  walked := by
    rw [Program.scanSettings, excusedWorld_settings]
    exact excusedWorld_walked
  written := by
    rw [Program.scanSettings, excusedWorld_settings]
    exact excusedWorld_written _ _

/-- `f` is over the limit, and nothing excuses it. -/
theorem excusedWorld_fails :
    excusedLayers.plain.failOnViolation = true ∧
    Program.Violated 1 [Bytes.of "*:g", Bytes.of "a.js:h"] excusedFiles ∧
    (Program.run excusedWorld excusedLine).ending.status = 1 := by
  have fails : excusedLayers.plain.failOnViolation = true := by decide +kernel
  have limit : excusedLayers.plain.maxLines = 1 := by decide +kernel
  have allow : excusedLayers.plain.allow ++ excusedFlags.texts "allow" =
      [Bytes.of "*:g", Bytes.of "a.js:h"] := by decide +kernel
  have failed : (Analysis.run ⟨1, Allow.ofEntries [Bytes.of "*:g", Bytes.of "a.js:h"],
      excusedLayers.plain.showAll⟩ excusedFiles).failed = true := by decide +kernel
  have violated : Program.Violated 1 [Bytes.of "*:g", Bytes.of "a.js:h"] excusedFiles := by
    let s := { excusedLayers.plain with maxLines := 1, allow := [Bytes.of "*:g", Bytes.of "a.js:h"] }
    exact (Program.failed_iff_violated s excusedFiles).mp failed
  refine ⟨fails, violated, ?_⟩
  have verdict := (scan_verdict excusedWorld excusedLine excusedFlags excusedFiles
    excusedWorld_scanned).1
  rw [excusedWorld_settings, limit, allow] at verdict
  exact verdict.mpr ⟨⟨fails, by decide +kernel⟩, violated⟩

end SpanGauge
