import SpanGauge.Proofs.FileTree.Onward
import SpanGauge.Proofs.Walk.Union

/-! Walks of one folder from several roots. However a root leads to the folder, the walk lists
and reads what another root shows it, step by step, and returns the same relative paths and
texts. A root that is itself a link is the exception. -/
namespace SpanGauge

open SpanGauge.Path (slash dotdot IsName tells Continues)

theorem Path.join_filter_length (cs : List Bytes) :
    (Bytes.join [slash] (cs.filter tells)).length ≤ (Bytes.join [slash] cs).length := by
  induction cs with
  | nil => exact Nat.le_refl _
  | cons c cs ih =>
    have longer : c.length + (Bytes.join [slash] cs).length ≤
        (Bytes.join [slash] (c :: cs)).length := by
      by_cases none : cs = []
      · subst none
        simp [Bytes.join]
      · rw [join_cons none, List.length_append, List.length_cons]
        omega
    cases told : tells c with
    | false =>
      rw [List.filter_cons_of_neg (by simp [told])]
      omega
    | true =>
      rw [List.filter_cons_of_pos told]
      by_cases none : cs.filter tells = []
      · rw [none, join_singleton]
        omega
      · have some : cs ≠ [] := fun nil => none (by rw [nil]; rfl)
        rw [join_cons none, join_cons some]
        simp only [List.length_append, List.length_cons]
        omega

theorem Path.clean_length_le {p : Bytes} (plain : dotdot ∉ parts p) (some : p ≠ []) :
    (clean p).length ≤ p.length := by
  have body := join_filter_length (parts p)
  rw [join_parts] at body
  rw [clean_eq_render, kept_of_plain plain, render]
  split
  · rename_i rooted
    obtain ⟨q, rfl⟩ : ∃ q, p = slash :: q := by
      cases p with
      | nil => exact absurd rfl some
      | cons b q =>
        have first : b = slash := by simpa [isRooted] using rooted
        exact ⟨q, by rw [first]⟩
    have inner := join_filter_length (parts q)
    rw [join_parts] at inner
    rw [parts_rooted, List.filter_cons_of_neg (by decide)]
    simp only [List.length_cons]
    omega
  split
  · exact List.length_pos_iff.mpr some
  · exact body

theorem FileTree.read_of_error {t : FileTree} {p : Bytes} {c : Cause}
    (refused : t.node true p = .error c) : t.read p = .error ⟨"open", p, c⟩ := by
  rw [FileTree.read, refused]

theorem FileTree.node_of_read_missing {t : FileTree} {p : Bytes} {r : Refusal}
    (refused : t.read p = .error r) (missing : r.cause = .missing) :
    t.node true p = .error .missing := by
  unfold FileTree.read at refused
  split at refused
  · cases refused
  · cases refused
    cases missing
  · rename_i found
    cases refused
    exact missing ▸ found

namespace Walk

/-- The root leads to the place, and so does the cleaned root, behind which the entries are
looked up. This goes without saying where the root has no double dots. -/
structure Opens (t : FileTree) (root : Bytes) (place : List Bytes) : Prop where
  leads : t.resolve true root = .ok place
  settled : dotdot ∉ Path.parts root ∨ t.resolve true (Path.clean root) = .ok place

def IsLink (t : FileTree) (path : Bytes) : Prop := ∃ target, t.node false path = .ok (.link target)

section Opens

variable {t : FileTree} {root : Bytes} {place : List Bytes}

theorem Opens.sound (opens : Opens t root place) : FileTree.Sound root :=
  (FileTree.resolve_eq_ok.mp opens.leads).1

theorem Opens.cleaned (opens : Opens t root place) :
    t.resolve true (Path.clean root) = .ok place := by
  rcases opens.settled with plain | cleaned
  · obtain ⟨sound, leads⟩ := FileTree.resolve_eq_ok.mp opens.leads
    obtain ⟨es, folder⟩ := leads.starts (Path.parts_ne_nil root)
    obtain ⟨front, nothing, parts⟩ := Path.parts_clean root
    refine FileTree.resolve_eq_ok.mpr ⟨⟨Path.clean_ne_nil root, fun zero => ?_, ?_⟩, ?_⟩
    · obtain ⟨c, member, inside⟩ := Path.zero_mem_clean.mp zero
      rw [Path.kept_of_plain plain] at member
      refine sound.no_zero ?_
      rw [← Path.join_parts root]
      exact (Path.mem_join (by decide)).mpr ⟨c, List.mem_of_mem_filter member, inside⟩
    · exact Nat.le_trans (Path.clean_length_le plain sound.some) sound.short
    · rw [parts, Path.isRooted_clean, Path.kept_of_plain plain]
      exact leads.told.behind folder nothing
  · exact cleaned

theorem Opens.slash {es : List (Bytes × Node)} (opens : Opens t root place)
    (folder : FileTree.Folder t.top place es) (short : root.length < FileTree.longestPath) :
    Opens t (root ++ [slash]) place := by
  refine ⟨FileTree.resolve_slash opens.leads folder short true, .inr ?_⟩
  rw [Path.clean_slash opens.sound.some]
  exact opens.cleaned

theorem not_isLink_of_folder {es : List (Bytes × Node)}
    (found : t.node false root = .ok (.folder es)) : ¬ IsLink t root := by
  rintro ⟨target, at_link⟩
  rw [found] at at_link
  cases at_link

theorem not_isLink_slash {es : List (Bytes × Node)} (opens : Opens t root place)
    (folder : FileTree.Folder t.top place es) (short : root.length < FileTree.longestPath) :
    ¬ IsLink t (root ++ [slash]) := by
  have found : t.node false (root ++ [slash]) = .ok (.folder es) := by
    simp only [FileTree.node, FileTree.resolve_slash opens.leads folder short false,
      folder.descends]
  exact not_isLink_of_folder found

theorem continues_pathOf {names : List Bytes} (start : root ≠ [])
    (proper : ∀ d ∈ names, IsName d) : Continues root names (pathOf root names) := by
  refine ⟨?_, kept_pathOf start proper⟩
  unfold pathOf
  split
  · rfl
  · rename_i some
    have told := relativeOf_ne_nil proper (by simpa using some)
    rw [Path.join_eq_clean start told, Path.isRooted_clean, Path.isRooted_append start]

end Opens

def told (f : Source) : Bytes × Bytes := (f.relative, f.text)

/-- The fault lies in the limits of the system, not in the tree. -/
def Fault.IsLimit : Fault → Prop
  | .root r | .ignoreFile r | .listing r | .reading _ r => r.cause.IsLimit
  | .ignoreText _ | .cancelled => False

def Keeps (outcome : Outcome) (s : State) : Prop :=
  (∃ s', outcome = .ok s' ∧ s'.files.map told = s.files.map told) ∨
    ∃ fault s', outcome = .error (fault, s') ∧ fault.IsLimit

section Below

variable {t : FileTree} {root own c : Bytes} {place above : List Bytes}

theorem node_below (at_own : Opens t own place) (at_root : Opens t root place)
    (proper : ∀ d ∈ above ++ [c], IsName d)
    (fine : ∀ e, t.node true (pathOf own (above ++ [c])) = .error e → ¬ e.IsLimit) :
    t.node true (pathOf root (above ++ [c])) = t.node true (pathOf own (above ++ [c])) ∨
      ∃ e, t.node true (pathOf root (above ++ [c])) = .error e ∧ e.IsLimit := by
  have names : ∀ d ∈ above, IsName d := fun d member => proper d (by simp [member])
  have name : IsName c := proper c (by simp)
  have same := FileTree.node_same at_own.cleaned at_root.cleaned
    (continues_pathOf at_own.sound.some proper) (continues_pathOf at_root.sound.some proper)
  rw [clean_pathOf at_own.sound.some names name, clean_pathOf at_root.sound.some names name] at same
  exact same fine

theorem list_below {es : List (Bytes × Node)} (at_own : Opens t own place)
    (at_root : Opens t root place) (proper : ∀ d ∈ above ++ [c], IsName d)
    (listed : t.list (pathOf own (above ++ [c])) = .ok es) :
    t.list (pathOf root (above ++ [c])) = .ok es ∨
      ∃ r, t.list (pathOf root (above ++ [c])) = .error r ∧ r.cause.IsLimit := by
  have at_es := FileTree.list_eq_ok.mp listed
  rcases node_below at_own at_root proper (by simp [at_es]) with same | ⟨e, refused, limit⟩
  · exact .inl (FileTree.list_eq_ok.mpr (same.trans at_es))
  · exact .inr ⟨_, by rw [FileTree.list, refused], limit⟩

theorem read_below {text : Bytes} (at_own : Opens t own place) (at_root : Opens t root place)
    (proper : ∀ d ∈ above ++ [c], IsName d)
    (found : t.read (pathOf own (above ++ [c])) = .ok text) :
    t.read (pathOf root (above ++ [c])) = .ok text ∨
      ∃ r, t.read (pathOf root (above ++ [c])) = .error r ∧ r.cause.IsLimit := by
  have at_text := FileTree.read_eq_ok.mp found
  rcases node_below at_own at_root proper (by simp [at_text]) with same | ⟨e, refused, limit⟩
  · exact .inl (FileTree.read_eq_ok.mpr (same.trans at_text))
  · exact .inr ⟨_, FileTree.read_of_error refused, limit⟩

theorem missing_below {r : FileTree.Refusal} (at_own : Opens t own place)
    (at_root : Opens t root place) (proper : ∀ d ∈ above ++ [c], IsName d)
    (refused : t.read (pathOf own (above ++ [c])) = .error r) (missing : r.cause = .missing) :
    ∃ r', t.read (pathOf root (above ++ [c])) = .error r' ∧
      (r'.cause = .missing ∨ r'.cause.IsLimit) := by
  have nowhere := FileTree.node_of_read_missing refused missing
  have fine : ∀ e, t.node true (pathOf own (above ++ [c])) = .error e → ¬ e.IsLimit := by
    intro e same limit
    exact limit.ne_missing (Except.error.inj (same.symm.trans nowhere))
  rcases node_below at_own at_root proper fine with same | ⟨e, refused', limit⟩
  · exact ⟨_, FileTree.read_of_error (same.trans nowhere), .inl rfl⟩
  · exact ⟨_, FileTree.read_of_error refused', .inr limit⟩

end Below

section Step

variable {w : Walk} {t : FileTree} {ignore : Ignore} {root own c : Bytes}
  {place above : List Bytes} {es : List (Bytes × Node)} {s s' r : State}

theorem keeps_ok (same : s'.files.map told = s.files.map told) : Keeps (.ok s') s :=
  .inl ⟨s', rfl, same⟩

theorem takeFile_keeps {path path' relative : Bytes} {size : Nat}
    (reads : ∀ text, t.read path = .ok text → t.read path' = .ok text ∨
      ∃ r, t.read path' = .error r ∧ r.cause.IsLimit)
    (same : s'.files.map told = s.files.map told)
    (done : w.takeFile t s path relative size = .ok r) :
    Keeps (w.takeFile t s' path' relative size) r := by
  unfold takeFile at done ⊢
  split at done
  · rename_i large
    cases done
    rw [if_pos large]
    exact keeps_ok same
  rename_i small
  rw [if_neg small]
  split at done
  · cases done
  rename_i text found
  rcases reads text found with found' | ⟨refusal, refused, limit⟩
  · rw [found']
    dsimp only
    split at done
    · rename_i binary
      cases done
      rw [if_pos binary]
      exact keeps_ok same
    · rename_i plain
      cases done
      rw [if_neg plain]
      exact keeps_ok (by simp [told, same])
  · rw [refused]
    exact .inr ⟨_, _, rfl, limit⟩

theorem entry_keeps {e : Bytes × Node}
    {inside inside' : Bytes → Bytes → State → List (Bytes × Node) → Outcome}
    (at_own : Opens t own place) (at_root : Opens t root place)
    (proper : ∀ d ∈ above ++ [e.1], IsName d)
    (below : ∀ es s s' r, t.list (pathOf own (above ++ [e.1])) = .ok es →
      s'.files.map told = s.files.map told →
      inside (pathOf own (above ++ [e.1])) (relativeOf (above ++ [e.1])) s es = .ok r →
      Keeps (inside' (pathOf root (above ++ [e.1])) (relativeOf (above ++ [e.1])) s' es) r)
    (same : s'.files.map told = s.files.map told)
    (done : w.entry t ignore inside (pathOf own above) (relativeOf above) s e = .ok r) :
    Keeps (w.entry t ignore inside' (pathOf root above) (relativeOf above) s' e) r := by
  obtain ⟨c, n⟩ := e
  have names : ∀ d ∈ above, IsName d := fun d member => proper d (by simp [member])
  have name : IsName c := proper c (by simp)
  have wanted : w.wanted (pathOf root (above ++ [c])) = w.wanted (pathOf own (above ++ [c])) := by
    rw [Walk.wanted, Walk.wanted, extension_pathOf at_own.sound.some names name,
      extension_pathOf at_root.sound.some names name]
  simp only [entry, relativeOf_concat names, pathOf_concat at_own.sound.some names name,
    pathOf_concat at_root.sound.some names name, wanted] at done ⊢
  cases n with
  | link target =>
    cases done
    exact keeps_ok same
  | file text =>
    dsimp only at done ⊢
    split at done
    · rename_i unwanted
      cases done
      rw [if_pos unwanted]
      exact keeps_ok same
    rename_i wanted
    rw [if_neg wanted]
    split at done
    · rename_i ignored
      cases done
      rw [if_pos ignored]
      exact keeps_ok same
    rename_i kept
    rw [if_neg kept]
    exact takeFile_keeps (fun _ => read_below at_own at_root proper) same done
  | folder inner =>
    dsimp only at done ⊢
    split at done
    · rename_i barred
      cases done
      rw [if_pos barred]
      exact keeps_ok same
    rename_i free
    rw [if_neg free]
    split at done
    · cases done
    rename_i es listed
    rcases list_below at_own at_root proper listed with listed' | ⟨refusal, refused, limit⟩
    · rw [listed']
      exact below es s s' r listed same done
    · rw [refused]
      exact .inr ⟨_, _, rfl, limit⟩

theorem entries_keep {step step' : State → Bytes × Node → Outcome}
    (each : ∀ e ∈ es, ∀ s s' r, s'.files.map told = s.files.map told → step s e = .ok r →
      Keeps (step' s' e) r)
    (same : s'.files.map told = s.files.map told) (done : es.foldlM step s = .ok r) :
    Keeps (es.foldlM step' s') r := by
  induction es generalizing s s' with
  | nil =>
    cases done
    exact keeps_ok same
  | cons e es ih =>
    rw [List.foldlM_cons] at done ⊢
    cases first : step s e with
    | error stop =>
      rw [first] at done
      cases done
    | ok middle =>
      rw [first] at done
      rcases each e (by simp) s s' middle same first with
        ⟨middle', first', same'⟩ | ⟨fault, stop, first', limit⟩
      · rw [first']
        exact ih (fun d member => each d (by simp [member])) same' done
      · rw [first']
        exact .inr ⟨fault, stop, rfl, limit⟩

theorem folder_keeps (tree : t.top.Proper) (at_own : Opens t own place)
    (at_root : Opens t root place) (depth : Nat) :
    ∀ {above es s s' r}, (∀ d ∈ above, IsName d) → (Node.folder es).Proper →
      s'.files.map told = s.files.map told →
      w.folder t ignore depth (pathOf own above) (relativeOf above) s es = .ok r →
      Keeps (w.folder t ignore depth (pathOf root above) (relativeOf above) s' es) r := by
  -- the invariant is that both walks have come to the same sources but for their paths
  induction depth with
  | zero => exact fun _ _ _ done => nomatch done
  | succ depth ih =>
    intro above es s s' r names proper same done
    cases proper with
    | folder distinct named _ =>
      refine entries_keep (fun e member s s' r same taken => ?_) same done
      have names' : ∀ d ∈ above ++ [e.1], IsName d := by
        simpa [or_imp, forall_and] using ⟨names, named e member⟩
      refine entry_keeps at_own at_root names' (fun inner s s' r listed same walked => ?_) same taken
      exact ih names' (tree.of_node (FileTree.list_eq_ok.mp listed)) same walked

theorem root_keeps {depth : Nat} {outcome : Outcome} (tree : t.top.Proper)
    (at_own : Opens t own place) (at_root : Opens t root place) (proper : (Node.folder es).Proper)
    (same : s'.files.map told = s.files.map told) (done : w.folder t ignore depth own [] s es = .ok r)
    (outcomes : w.folder t ignore depth root [] s' es = outcome) : Keeps outcome r := by
  have names : ∀ d ∈ ([] : List Bytes), IsName d := by simp
  rw [← outcomes]
  exact folder_keeps tree at_own at_root depth names proper same done

theorem Keeps.told_eq (keeps : Keeps (.ok s') s) : s'.files.map told = s.files.map told := by
  obtain ⟨_, same, told⟩ | ⟨_, _, stopped, -⟩ := keeps
  · cases same
    exact told
  · cases stopped

theorem Keeps.fault {fault : Fault} (keeps : Keeps (.error (fault, s')) s) : fault.IsLimit := by
  obtain ⟨_, done, -⟩ | ⟨_, _, same, limit⟩ := keeps
  · cases done
  · cases same
    exact limit

end Step

def Scans (result : Except Fault (List Source)) (files : List Source) : Prop :=
  (∃ files', result = .ok files' ∧ files'.map told = files.map told) ∨
    ∃ fault, result = .error fault ∧ fault.IsLimit

section Run

variable {w : Walk} {t : FileTree} {root own : Bytes} {place : List Bytes}
  {es : List (Bytes × Node)} {files : List Source}

theorem loadIgnore_keeps {ignore : Ignore} (at_own : Opens t own place)
    (at_root : Opens t root place) (loaded : loadIgnore t own = .ok ignore) :
    loadIgnore t root = .ok ignore ∨
      ∃ fault, loadIgnore t root = .error fault ∧ fault.IsLimit := by
  have name : ∀ d ∈ ([] : List Bytes) ++ [Bytes.of ".gitignore"], IsName d := by decide +kernel
  have path (r : Bytes) : Path.join [r, Bytes.of ".gitignore"] =
      pathOf r ([] ++ [Bytes.of ".gitignore"]) := by
    simp [pathOf, relativeOf, Path.join_singleton]
  unfold loadIgnore at loaded ⊢
  rw [path] at loaded ⊢
  cases found : t.read (pathOf own ([] ++ [Bytes.of ".gitignore"])) with
  | ok text =>
    rw [found] at loaded
    rcases read_below at_own at_root name found with found' | ⟨refusal, refused, limit⟩
    · rw [found']
      exact .inl loaded
    · rw [refused]
      exact .inr ⟨.ignoreFile refusal, if_neg limit.ne_missing, limit⟩
  | error refusal =>
    rw [found] at loaded
    dsimp only at loaded
    split at loaded
    · rename_i missing
      obtain ⟨refusal', refused, none⟩ := missing_below at_own at_root name found missing
      rw [refused]
      rcases none with missing' | limit
      · exact .inl ((if_pos missing').trans loaded)
      · exact .inr ⟨.ignoreFile refusal', if_neg limit.ne_missing, limit⟩
    · cases loaded

theorem told_mergeSort {fs gs : List Source} (same : gs.map told = fs.map told) :
    (gs.reverse.mergeSort byRelative).map told = (fs.reverse.mergeSort byRelative).map told := by
  have order : ∀ l : List Source, (l.mergeSort byRelative).map told =
      (l.map told).mergeSort fun a b => Bytes.le a.1 b.1 := fun l =>
    List.map_mergeSort fun _ _ _ _ => rfl
  rw [order, order, List.map_reverse, List.map_reverse, same]

theorem fromFolder_scans {cancelled : Bool} (tree : t.top.Proper) (proper : (Node.folder es).Proper)
    (at_own : Opens t own place) (at_root : Opens t root place) (itself : ¬ IsLink t own)
    (done : (w.fromFolder t cancelled own es).1 = .ok files) :
    (¬ IsLink t root → Scans (w.fromFolder t cancelled root es).1 files) ∧
      (IsLink t root → Scans (w.fromFolder t cancelled root es).1 []) := by
  unfold fromFolder at done ⊢
  split at done
  · cases done
  rename_i ignore loaded
  have loads : (if w.respectIgnore then loadIgnore t root else .ok {} : Except Fault Ignore) =
      .ok ignore ∨
      ∃ fault, (if w.respectIgnore then loadIgnore t root else .ok {} : Except Fault Ignore) =
        .error fault ∧ fault.IsLimit := by
    split at loaded
    · rename_i on
      rw [if_pos on]
      exact loadIgnore_keeps at_own at_root loaded
    · rename_i off
      rw [if_neg off]
      exact .inl loaded
  rcases loads with loaded' | ⟨fault, refused, limit⟩
  · rw [loaded']
    dsimp only at done ⊢
    split at done
    · cases done
    rename_i going
    rw [if_neg going]
    split at done
    · rename_i target at_own
      exact absurd ⟨target, at_own⟩ itself
    split at done
    · cases done
    rename_i s walked
    cases done
    constructor
    · intro plain
      split
      · rename_i target at_root
        exact absurd ⟨target, at_root⟩ plain
      split
      · rename_i fault stop stopped
        have limit := (root_keeps tree at_own at_root proper ?_ walked stopped).fault
        · exact .inr ⟨fault, rfl, limit⟩
        · split <;> rfl
      · rename_i s' walked'
        have same := (root_keeps tree at_own at_root proper ?_ walked walked').told_eq
        · exact .inl ⟨_, rfl, told_mergeSort same⟩
        · split <;> rfl
    · rintro ⟨target, at_link⟩
      rw [at_link]
      exact .inl ⟨[], rfl, rfl⟩
  · rw [refused]
    exact ⟨fun _ => .inr ⟨fault, rfl, limit⟩, fun _ => .inr ⟨fault, rfl, limit⟩⟩

theorem run_of_opens {cancelled : Bool} (opens : Opens t root place)
    (folder : FileTree.Folder t.top place es) :
    w.run t cancelled root = w.fromFolder t cancelled root es := by
  simp only [run, FileTree.stat, FileTree.node, opens.leads, folder.descends]

end Run

end Walk

open Walk in
/-- Two roots lead to one folder of a proper tree, and the walk from one of them, which is not
itself a link, returns sources. The walk from the other returns them too, by the same relative
paths and with the same texts, unless it is itself a link: then it returns none, though it is
taken for a folder and its ignore list is read. With a slash behind it, every root is scanned.
Only the limits on paths and links can bring up a fault. -/
theorem root_scanned_unless_link (w : Walk) (t : FileTree) (cancelled : Bool) (own root : Bytes)
    (place : List Bytes) (es : List (Bytes × Node)) (tree : t.top.Proper)
    (folder : FileTree.Folder t.top place es) (at_own : Opens t own place)
    (at_root : Opens t root place) (itself : ¬ IsLink t own) (files : List Source)
    (done : (w.run t cancelled own).1 = .ok files) :
    (¬ IsLink t root → Scans (w.run t cancelled root).1 files) ∧
      (IsLink t root → Scans (w.run t cancelled root).1 []) ∧
      (root.length < FileTree.longestPath →
        Scans (w.run t cancelled (root ++ [slash])).1 files) := by
  have proper : (Node.folder es).Proper := tree.descend folder
  rw [run_of_opens at_own folder] at done
  obtain ⟨scanned, empty⟩ := fromFolder_scans tree proper at_own at_root itself done
  rw [run_of_opens at_root folder]
  refine ⟨scanned, empty, fun short => ?_⟩
  have at_slash := at_root.slash folder short
  rw [run_of_opens at_slash folder]
  exact (fromFolder_scans tree proper at_own at_slash itself done).1
    (not_isLink_slash at_root folder short)

def linkedEntries : List (Bytes × Node) := [(Bytes.of "f.js", .file (Bytes.of "x\n"))]

def linkedTree : FileTree :=
  ⟨.folder [(Bytes.of "d", .folder linkedEntries), (Bytes.of "l", .link (Bytes.of "d"))], []⟩

def linkedFile : Source := ⟨Bytes.of "d/f.js", Bytes.of "f.js", Bytes.of "x\n"⟩

theorem linkedTree_run :
    (strayWalk.run linkedTree false (Bytes.of "d")).1 = .ok [linkedFile] := by decide +kernel

/-- The link leads to the folder, and still the walk from it returns nothing. -/
theorem linked_root_empty :
    linkedTree.stat (Bytes.of "d") = .ok (.folder linkedEntries) ∧
      linkedTree.stat (Bytes.of "l") = .ok (.folder linkedEntries) ∧
      (strayWalk.run linkedTree false (Bytes.of "d")).1 = .ok [linkedFile] ∧
      (strayWalk.run linkedTree false (Bytes.of "l")).1 = .ok [] :=
  ⟨by decide +kernel, by decide +kernel, linkedTree_run, by decide +kernel⟩

theorem linkedTree_scanned :
    linkedTree.top.Proper ∧ Walk.IsLink linkedTree (Bytes.of "l") ∧
      Walk.Scans (strayWalk.run linkedTree false (Bytes.of "l")).1 [] ∧
      Walk.Scans (strayWalk.run linkedTree false (Bytes.of "l" ++ [slash])).1 [linkedFile] ∧
      Walk.Scans (strayWalk.run linkedTree false (Bytes.of "./d")).1 [linkedFile] := by
  have entries : (Node.folder linkedEntries).Proper := by
    refine .folder (by decide +kernel) (by decide +kernel) ?_
    simpa [linkedEntries] using .file _
  have tree : linkedTree.top.Proper := by
    refine .folder (by decide +kernel) (by decide +kernel) ?_
    simp only [List.forall_mem_cons, List.not_mem_nil, false_implies, implies_true, and_true]
    exact ⟨entries, .link _⟩
  have folder : FileTree.Folder linkedTree.top [Bytes.of "d"] linkedEntries := rfl
  have at_own : Walk.Opens linkedTree (Bytes.of "d") [Bytes.of "d"] :=
    ⟨by decide +kernel, .inl (by decide +kernel)⟩
  have at_link : Walk.Opens linkedTree (Bytes.of "l") [Bytes.of "d"] :=
    ⟨by decide +kernel, .inl (by decide +kernel)⟩
  have at_dot : Walk.Opens linkedTree (Bytes.of "./d") [Bytes.of "d"] :=
    ⟨by decide +kernel, .inl (by decide +kernel)⟩
  have isLink : Walk.IsLink linkedTree (Bytes.of "l") := ⟨Bytes.of "d", by decide +kernel⟩
  have itself : linkedTree.node false (Bytes.of "d") = .ok (.folder linkedEntries) := by decide +kernel
  have dotted : linkedTree.node false (Bytes.of "./d") = .ok (.folder linkedEntries) := by decide +kernel
  have not_link := Walk.not_isLink_of_folder itself
  obtain ⟨-, empty, slashed⟩ := root_scanned_unless_link strayWalk linkedTree false (Bytes.of "d")
    (Bytes.of "l") [Bytes.of "d"] linkedEntries tree folder at_own at_link not_link _ linkedTree_run
  obtain ⟨scanned, -, -⟩ := root_scanned_unless_link strayWalk linkedTree false (Bytes.of "d")
    (Bytes.of "./d") [Bytes.of "d"] linkedEntries tree folder at_own at_dot not_link _ linkedTree_run
  exact ⟨tree, isLink, empty isLink, slashed (by decide +kernel),
    scanned (Walk.not_isLink_of_folder dotted)⟩

end SpanGauge
