import SpanGauge.Settings.Decoders
import SpanGauge.Proofs.Settings.Change
import SpanGauge.Proofs.Settings.Reading

/-! The plain and the checked reading of settings, after the file is read and after each change.
Numbers, and yes and no, are always the same in both. The other settings are where the value that
is found has one meaning in both, and from their first change on. -/
namespace SpanGauge

namespace Settings

variable {l : Layers} {s : Settings} {ds : Decoders} {t : FileTree} {full : Layers}
  {named : Bytes}

theorem checked_of_load (loaded : load ds t l named = (full, .ok s)) :
    full.checked? = some s := by
  rw [load] at loaded
  split at loaded
  · cases loaded
  · dsimp only at loaded
    split at loaded
    · rename_i checked
      cases loaded
      exact checked
    · cases loaded

theorem checked?_reads (checked : l.checked? = some s) :
    l.int? .maxLines = some s.maxLines ∧ l.bool? .showAll = some s.showAll ∧
      l.bool? .failOnViolation = some s.failOnViolation ∧ l.text? .output = some s.output ∧
      l.texts? .allow = some s.allow ∧ l.texts? .skipFolders = some s.skipFolders := by
  -- the settings in the order they are read in
  rw [Layers.checked?] at checked
  obtain ⟨_, -, checked⟩ := Option.bind_eq_some_iff.mp checked
  obtain ⟨maxLines, at_maxLines, checked⟩ := Option.bind_eq_some_iff.mp checked
  obtain ⟨_, -, checked⟩ := Option.bind_eq_some_iff.mp checked
  obtain ⟨skipFolders, at_skipFolders, checked⟩ := Option.bind_eq_some_iff.mp checked
  iterate 3 obtain ⟨_, -, checked⟩ := Option.bind_eq_some_iff.mp checked
  obtain ⟨allow, at_allow, checked⟩ := Option.bind_eq_some_iff.mp checked
  obtain ⟨output, at_output, checked⟩ := Option.bind_eq_some_iff.mp checked
  obtain ⟨showAll, at_showAll, checked⟩ := Option.bind_eq_some_iff.mp checked
  obtain ⟨failOnViolation, at_failOnViolation, checked⟩ := Option.bind_eq_some_iff.mp checked
  iterate 15 obtain ⟨_, -, checked⟩ := Option.bind_eq_some_iff.mp checked
  cases checked
  exact ⟨at_maxLines, at_showAll, at_failOnViolation, at_output, at_allow, at_skipFolders⟩

variable {k : Key}

theorem Layers.int_of_int? {n : Int} (read : l.int? k = some n) : l.int k = n := by
  obtain ⟨v, found, strict⟩ := Option.bind_eq_some_iff.mp read
  rw [Layers.int, found]
  exact Data.toInt_of_int? strict

theorem Layers.bool_of_bool? {b : Bool} (read : l.bool? k = some b) : l.bool k = b := by
  obtain ⟨v, found, strict⟩ := Option.bind_eq_some_iff.mp read
  rw [Layers.bool, found]
  exact Data.toBool_of_bool? strict

theorem Layers.text_eq_iff {text : Bytes} (read : l.text? k = some text) :
    ∃ v, l.find? k = some v ∧ (l.text k = text ↔ v.isBool = false) := by
  obtain ⟨v, found, strict⟩ := Option.bind_eq_some_iff.mp read
  refine ⟨v, found, ?_⟩
  rw [Layers.text, found]
  exact Data.toText_eq_iff strict

theorem Layers.texts_eq_iff {texts : List Bytes} (read : l.texts? k = some texts) :
    ∃ v, l.find? k = some v ∧ (l.texts k = texts ↔ v.Listed) := by
  obtain ⟨v, found, strict⟩ := Option.bind_eq_some_iff.mp read
  refine ⟨v, found, ?_⟩
  rw [Layers.texts, found]
  exact Data.toTexts_eq_iff strict

theorem texts_inj {ts us : List Bytes} :
    Data.list (ts.map .text) = Data.list (us.map .text) ↔ ts = us := by
  rw [Data.list.injEq]
  exact (List.map_injective_iff.mpr fun _ _ => Data.text.inj).eq_iff

end Settings

open Settings in
/-- When the settings are read without a fault, the plain and the checked reading have the same
numbers, and the same yes and no, for all time. A text is the same in both if it is not given as
yes or no, and a list if its value makes one list in both; else it is from the first change of it
on. A change leaves all other settings as they are, and the allow list only grows by what is
added. -/
theorem readings_agree (ds : Decoders) (t : FileTree) (l full : Layers) (named : Bytes)
    (s : Settings) (loaded : load ds t l named = (full, .ok s)) :
    ∃ output allow skips, full.find? .output = some output ∧ full.find? .allow = some allow ∧
      full.find? .skipFolders = some skips ∧
      ∀ cs : List Change, (∀ c ∈ cs, c.Fits) →
        let now := (after full s cs).1
        let kept := (after full s cs).2
        now.plain.maxLines = kept.maxLines ∧ now.plain.showAll = kept.showAll ∧
        now.plain.failOnViolation = kept.failOnViolation ∧
        (now.plain.output = kept.output ↔ (∃ c ∈ cs, c.key = .output) ∨ output.isBool = false) ∧
        (now.plain.allow = kept.allow ↔ (∃ c ∈ cs, c.key = .allow) ∨ allow.Listed) ∧
        (now.plain.skipFolders = kept.skipFolders ↔ skips.Listed) ∧
        now.plain.allow = full.plain.allow ++ cs.flatMap Change.entries ∧
        ∀ c : Change, c.Fits → ∀ k ≠ c.key, (c.onLayers now).plain.value k = now.plain.value k ∧
          (c.onSettings now kept).value k = kept.value k := by
  obtain ⟨lines, all, fail, text, entries, folders⟩ := checked?_reads (checked_of_load loaded)
  obtain ⟨output, at_output, same_output⟩ := Layers.text_eq_iff text
  obtain ⟨allow, at_allow, same_allow⟩ := Layers.texts_eq_iff entries
  obtain ⟨skips, at_skips, same_skips⟩ := Layers.texts_eq_iff folders
  refine ⟨output, allow, skips, at_output, at_allow, at_skips, fun cs fits => ?_⟩
  have agree := fun k apart => after_agree (l := full) (s := s) (k := k) fits apart
  have no_skips : ¬ ∃ c ∈ cs, c.key = .skipFolders := by
    rintro ⟨c, -, key⟩
    cases c <;> cases key
  refine ⟨?_, ?_, ?_, ?_, ?_, ?_, after_allow fits, fun c fit k other => ⟨?_, ?_⟩⟩
  · exact Data.int.inj ((agree .maxLines (by decide)).mpr
      (.inr (congrArg Data.int (Layers.int_of_int? lines))))
  · exact Data.bool.inj ((agree .showAll (by decide)).mpr
      (.inr (congrArg Data.bool (Layers.bool_of_bool? all))))
  · exact Data.bool.inj ((agree .failOnViolation (by decide)).mpr
      (.inr (congrArg Data.bool (Layers.bool_of_bool? fail))))
  · have here := agree .output (by decide)
    simp only [value, Data.text.injEq] at here
    exact here.trans (or_congr_right same_output)
  · have here := agree .allow (by decide)
    simp only [value, texts_inj] at here
    exact here.trans (or_congr_right same_allow)
  · have here := agree .skipFolders (by decide)
    simp only [value, texts_inj, or_iff_right no_skips] at here
    exact here.trans same_skips
  · rw [Change.plain_onLayers fit, Change.value_written other]
  · exact Change.value_onSettings other _ _

/- An allow list with white space between its entries, in the environment. -/
def spacedLayers : Settings.Layers where
  environment := [(Bytes.of "FNSPAN_ALLOW", Bytes.of "a.js b.js:run")]

def spacedKept : Settings := { spacedLayers.plain with allow := [Bytes.of "a.js b.js:run"] }

theorem spacedLayers_load :
    Settings.load .jsonOnly ⟨.folder [], []⟩ spacedLayers [] = (spacedLayers, .ok spacedKept) := by
  have nowhere : Settings.locate? ⟨.folder [], []⟩ spacedLayers.environment = none := by
    decide +kernel
  have no_file : Settings.file .jsonOnly ⟨.folder [], []⟩ spacedLayers.environment [] =
      .ok (.map []) := by
    rw [Settings.file, nowhere]
    rfl
  have checked : spacedLayers.checked? = some spacedKept := by decide +kernel
  rw [Settings.load, no_file]
  dsimp only
  have same : { spacedLayers with file := .map [] } = spacedLayers := rfl
  rw [same, checked]

theorem spacedAllow_read_apart :
    Settings.load .jsonOnly ⟨.folder [], []⟩ spacedLayers [] = (spacedLayers, .ok spacedKept) ∧
      spacedLayers.plain.allow = [Bytes.of "a.js", Bytes.of "b.js:run"] ∧
      spacedKept.allow = [Bytes.of "a.js b.js:run"] ∧
      spacedLayers.plain.allow ≠ spacedKept.allow :=
  ⟨spacedLayers_load, by decide +kernel, rfl, by decide +kernel⟩

def spacedChanges : List Settings.Change := [.maxLines 80, .addAllow [Bytes.of "c.js"]]

/- The entry that is added brings the two readings together. -/
theorem spacedAllow_settles :
    Settings.load .jsonOnly ⟨.folder [], []⟩ spacedLayers [] = (spacedLayers, .ok spacedKept) ∧
      (∀ c ∈ spacedChanges, c.Fits) ∧
      let now := (Settings.after spacedLayers spacedKept spacedChanges).1
      let kept := (Settings.after spacedLayers spacedKept spacedChanges).2
      now.plain.maxLines = kept.maxLines ∧ now.plain.allow = kept.allow ∧
        now.plain.allow = [Bytes.of "a.js", Bytes.of "b.js:run", Bytes.of "c.js"] ∧
        ((Settings.Change.showAll true).onLayers now).plain.value .allow =
          now.plain.value .allow := by
  have fits : ∀ c ∈ spacedChanges, c.Fits :=
    List.forall_mem_cons.mpr ⟨(by decide : IsWord 80), List.forall_mem_singleton.mpr trivial⟩
  obtain ⟨_, _, _, -, -, -, run⟩ := readings_agree .jsonOnly ⟨.folder [], []⟩ spacedLayers
    spacedLayers [] spacedKept spacedLayers_load
  obtain ⟨lines, -, -, -, allow, -, grown, other⟩ := run spacedChanges fits
  have added : ∃ c ∈ spacedChanges, c.key = .allow :=
    ⟨.addAllow [Bytes.of "c.js"], List.mem_cons_of_mem _ List.mem_cons_self, rfl⟩
  have entries : spacedLayers.plain.allow ++ spacedChanges.flatMap Settings.Change.entries =
      [Bytes.of "a.js", Bytes.of "b.js:run", Bytes.of "c.js"] := by decide +kernel
  exact ⟨spacedLayers_load, fits, lines, allow.mpr (.inl added), grown.trans entries,
    (other (.showAll true) trivial .allow (by decide)).1⟩

end SpanGauge
