import Mathlib.Data.List.Infix
import SpanGauge.Settings
import SpanGauge.Proofs.Text.Wrap

/-! Changes of settings. A value set in the run wins over all layers, so a change has its value in
the plain reading and in the settings kept next to it, and no other setting changes in either. -/
namespace SpanGauge.Settings

namespace Layers

variable (l : Layers)

@[simp] theorem set_environment (k : Key) (v : Data) : (l.set k v).environment = l.environment := rfl

theorem find?_set (k : Key) (v : Data) (j : Key) :
    (l.set k v).find? j = if j = k then some v else l.find? j := by
  by_cases same : j = k
  · subst same
    simp [find?, set, entry?]
  · have chosen : entry? (l.set k v).chosen j = entry? l.chosen j := by
      simp only [set, entry?, List.find?_cons, Ne.symm same, decide_false]
    rw [if_neg same, find?, chosen]
    rfl

end Layers

def value (s : Settings) : Key → Data
  | .path => .text s.path
  | .maxLines => .int s.maxLines
  | .extensions => .list (s.extensions.map .text)
  | .skipFolders => .list (s.skipFolders.map .text)
  | .respectIgnore => .bool s.respectIgnore
  | .maxBytes => .int s.maxBytes
  | .workers => .int s.workers
  | .allow => .list (s.allow.map .text)
  | .output => .text s.output
  | .showAll => .bool s.showAll
  | .failOnViolation => .bool s.failOnViolation
  | .editor => .text s.editor
  | .shell => .text s.shell
  | .colourPath => .text s.colours.path
  | .colourName => .text s.colours.name
  | .colourViolation => .text s.colours.violation
  | .colourExcused => .text s.colours.excused
  | .colourDim => .text s.colours.dim
  | .colourBorder => .text s.colours.border
  | .colourCursor => .text s.colours.cursor
  | .colourSelected => .text s.colours.selected
  | .columnGap => .int s.columns.gap
  | .columnLocation => .int s.columns.location
  | .columnName => .int s.columns.name
  | .logLevel => .text s.logLevel
  | .logFormat => .text s.logFormat

namespace Change

def key : Change → Key
  | .output _ => .output
  | .maxLines _ => .maxLines
  | .workers _ => .workers
  | .showAll _ => .showAll
  | .failOnViolation _ => .failOnViolation
  | .addAllow _ => .allow

def entries : Change → List Bytes
  | .addAllow es => es
  | _ => []

def Fits : Change → Prop
  | .maxLines n => IsWord n
  | .workers n => IsWord n
  | _ => True

def written (c : Change) (s : Settings) : Settings :=
  match c with
  | .output format => { s with output := format }
  | .maxLines n => { s with maxLines := n }
  | .workers n => { s with workers := max 1 n }
  | .showAll b => { s with showAll := b }
  | .failOnViolation b => { s with failOnViolation := b }
  | .addAllow es => { s with allow := s.allow ++ es }

variable {c : Change} {l : Layers} {s : Settings} {k : Key}

theorem plain_onLayers (fits : c.Fits) (l : Layers) : (c.onLayers l).plain = c.written l.plain := by
  have read : Data.toText ∘ Data.text = id := rfl
  cases c <;> simp_all [onLayers, written, Fits, Layers.plain, Layers.int, Layers.bool,
    Layers.text, Layers.texts, Layers.find?_set, Data.toInt, Data.toBool, Data.toText, Data.toTexts,
    wrap_of_isWord]

theorem value_written (other : k ≠ c.key) (s : Settings) : (c.written s).value k = s.value k := by
  cases c <;> cases k <;> first | rfl | exact absurd rfl other

theorem value_onSettings (other : k ≠ c.key) (l : Layers) (s : Settings) :
    (c.onSettings l s).value k = s.value k := by
  cases c <;> cases k <;> first | rfl | exact absurd rfl other

/-- Both readings have the same value of what is changed, but that a plain reading never has
fewer workers than one. -/
theorem value_changed (apart : c.key ≠ .workers) (l : Layers) (s : Settings) :
    (c.written l.plain).value c.key = (c.onSettings l s).value c.key := by
  cases c with
  | workers _ => exact absurd rfl apart
  | output _ | maxLines _ | showAll _ | failOnViolation _ | addAllow _ => rfl

end Change

def after (l : Layers) (s : Settings) (cs : List Change) : Layers × Settings :=
  cs.foldl (fun now c => (c.onLayers now.1, c.onSettings now.1 now.2)) (l, s)

variable {l : Layers} {s : Settings} {cs : List Change} {k : Key}

theorem after_cons (c : Change) :
    after l s (c :: cs) = after (c.onLayers l) (c.onSettings l s) cs := rfl

theorem history_eq (l : Layers) (s : Settings) (cs : List Change) :
    history l s cs = cs.inits.map fun first => ((after l s first).1.plain, (after l s first).2) := by
  induction cs generalizing l s with
  | nil => rfl
  | cons c cs ih =>
    rw [history, ih, List.inits_cons, List.map_cons, List.map_map]
    rfl

/-- Once a setting is changed, both readings have the same value of it for good. -/
theorem after_agree (fits : ∀ c ∈ cs, c.Fits) (apart : k ≠ .workers) :
    (after l s cs).1.plain.value k = (after l s cs).2.value k ↔
      (∃ c ∈ cs, c.key = k) ∨ l.plain.value k = s.value k := by
  induction cs generalizing l s with
  | nil => simp [after]
  | cons c cs ih =>
    have step : (c.onLayers l).plain.value k = (c.onSettings l s).value k ↔
        c.key = k ∨ l.plain.value k = s.value k := by
      rw [Change.plain_onLayers (fits c List.mem_cons_self)]
      by_cases changed : c.key = k
      · subst changed
        exact iff_of_true (Change.value_changed apart l s) (.inl rfl)
      · rw [Change.value_written (Ne.symm changed), Change.value_onSettings (Ne.symm changed),
          or_iff_right changed]
    rw [after_cons, ih fun d member => fits d (List.mem_cons_of_mem c member), step,
      List.exists_mem_cons_iff, ← or_assoc, or_comm (a := ∃ d ∈ cs, d.key = k)]

theorem after_allow (fits : ∀ c ∈ cs, c.Fits) :
    (after l s cs).1.plain.allow = l.plain.allow ++ cs.flatMap Change.entries := by
  induction cs generalizing l s with
  | nil => exact (List.append_nil _).symm
  | cons c cs ih =>
    have step : (c.onLayers l).plain.allow = l.plain.allow ++ c.entries := by
      rw [Change.plain_onLayers (fits c List.mem_cons_self)]
      cases c with
      | addAllow _ => rfl
      | output _ | maxLines _ | workers _ | showAll _ | failOnViolation _ =>
        exact (List.append_nil _).symm
    rw [after_cons, ih fun d member => fits d (List.mem_cons_of_mem c member), step,
      List.flatMap_cons, List.append_assoc]

end SpanGauge.Settings
