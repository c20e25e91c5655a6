import Mathlib.Data.List.Basic
import SpanGauge.Walk
import SpanGauge.Proofs.FileTree.Resolve
import SpanGauge.Proofs.Text.Order

/-! What a walk finds. Each folder is listed, and each file read, by its cleaned path; as
long as the cleaned root leads where the root leads, these are the entries that lie below
the root, and the walk returns exactly the files that pass its conditions. -/
namespace SpanGauge

/-- A tree as file systems hold it: the entries of a folder have names, and no two the
same one. -/
inductive Node.Proper : Node → Prop
  | file (text : Bytes) : Proper (.file text)
  | link (target : Bytes) : Proper (.link target)
  | folder {es : List (Bytes × Node)} (distinct : (es.map Prod.fst).Nodup)
      (names : ∀ e ∈ es, Path.IsName e.1) (inside : ∀ e ∈ es, Proper e.2) : Proper (.folder es)

theorem Node.Proper.tail {e : Bytes × Node} {es : List (Bytes × Node)}
    (proper : (Node.folder (e :: es)).Proper) : (Node.folder es).Proper := by
  cases proper with
  | folder distinct names inside =>
    rw [List.map_cons, List.nodup_cons] at distinct
    exact .folder distinct.2 (fun d member => names d (by simp [member]))
      (fun d member => inside d (by simp [member]))

theorem Node.child?_of_mem {es : List (Bytes × Node)} {c : Bytes} {n : Node}
    (distinct : (es.map Prod.fst).Nodup) (member : (c, n) ∈ es) :
    (Node.folder es).child? c = some n := by
  have found : es.find? (fun e => e.1 == c) = some (c, n) := by
    induction es with
    | nil => cases member
    | cons e es ih =>
      rw [List.map_cons, List.nodup_cons] at distinct
      rcases List.mem_cons.mp member with rfl | member
      · simp
      · have other : (e.1 == c) = false :=
          beq_eq_false_iff_ne.mpr fun same =>
            distinct.1 (same ▸ List.mem_map_of_mem (f := Prod.fst) member)
        rw [List.find?_cons, other]
        exact ih distinct.2 member
  simp [child?, entries, found]

theorem Node.folder_of_descend? {n m : Node} {cs : List Bytes} (found : n.descend? cs = some m)
    (some : cs ≠ []) : ∃ es, n = .folder es := by
  cases n with
  | folder es => exact ⟨es, rfl⟩
  | file _ | link _ =>
    cases cs with
    | nil => exact absurd rfl some
    | cons c cs => cases found

theorem Node.mem_of_child? {es : List (Bytes × Node)} {c : Bytes} {n : Node}
    (found : (Node.folder es).child? c = some n) : (c, n) ∈ es := by
  obtain ⟨e, at_e, rfl⟩ := Option.map_eq_some_iff.mp found
  have name : e.1 = c := by simpa using List.find?_some at_e
  exact name ▸ List.mem_of_find?_eq_some at_e

namespace Walk

open SpanGauge.Path (slash IsName)

def relativeOf (names : List Bytes) : Bytes := Bytes.join [slash] names

def pathOf (root : Bytes) (names : List Bytes) : Bytes :=
  if names.isEmpty then root else Path.join [root, relativeOf names]

structure Enters (w : Walk) (ignore : Ignore) (above : List Bytes) (base : Bytes) : Prop where
  not_skipped : base ∉ w.skipFolders
  not_ignored : w.respectIgnore = true → ignore.ignores (relativeOf (above ++ [base])) true = false

structure Readable (w : Walk) (text : Bytes) : Prop where
  small : 0 < w.maxBytes → (text.length : Int) ≤ w.maxBytes
  no_zero : (0 : UInt8) ∉ text.take 8192

structure Admits (w : Walk) (ignore : Ignore) (above : List Bytes) (name text : Bytes) : Prop
    extends Readable w text where
  not_ignored : w.respectIgnore = true → ignore.ignores (relativeOf (above ++ [name])) false = false
  wanted : Text.lower (Path.extension name) ∈ w.extensions.map Text.lower

inductive Found (w : Walk) (ignore : Ignore) (root : Bytes) :
    List Bytes → List (Bytes × Node) → Source → Prop
  | file {above es name text} (member : (name, .file text) ∈ es)
      (admits : w.Admits ignore above name text) :
      Found w ignore root above es
        ⟨pathOf root (above ++ [name]), relativeOf (above ++ [name]), text⟩
  | folder {above es base inside f} (member : (base, .folder inside) ∈ es)
      (enters : w.Enters ignore above base)
      (found : Found w ignore root (above ++ [base]) inside f) : Found w ignore root above es f

section Paths

variable {root c : Bytes} {names : List Bytes}

theorem relativeOf_ne_nil (proper : ∀ d ∈ names, IsName d) (some : names ≠ []) :
    relativeOf names ≠ [] := fun none =>
  some ((Path.join_eq_nil fun d member => (proper d member).tells).mp none)

theorem relativeOf_concat (proper : ∀ d ∈ names, IsName d) (c : Bytes) :
    (if (relativeOf names).isEmpty then c else relativeOf names ++ [byte '/'] ++ c) =
      relativeOf (names ++ [c]) := by
  by_cases some : names = []
  · subst some
    exact (Path.join_singleton c).symm
  · have told := relativeOf_ne_nil proper some
    rw [if_neg (by simpa using told), relativeOf, relativeOf, Path.join_concat some,
      List.append_assoc]
    rfl

theorem pathOf_concat (start : root ≠ []) (proper : ∀ d ∈ names, IsName d) (name : IsName c) :
    Path.join [pathOf root names, c] = pathOf root (names ++ [c]) := by
  by_cases some : names = []
  · subst some
    simp [pathOf, relativeOf, Path.join_singleton]
  · have told := relativeOf_ne_nil proper some
    simp only [pathOf, some, List.isEmpty_iff, List.append_eq_nil_iff, List.cons_ne_nil, and_false,
      if_false]
    rw [Path.join_join start told name, relativeOf, relativeOf, Path.join_concat some]

theorem pathOf_ne_nil (start : root ≠ []) (proper : ∀ d ∈ names, IsName d) :
    pathOf root names ≠ [] := by
  unfold pathOf
  split
  · exact start
  · rename_i some
    exact Path.join_ne_nil start (relativeOf_ne_nil proper (by simpa using some))

theorem clean_pathOf (start : root ≠ []) (proper : ∀ d ∈ names, IsName d) (name : IsName c) :
    Path.clean (pathOf root (names ++ [c])) = pathOf root (names ++ [c]) := by
  rw [← pathOf_concat start proper name, Path.clean_join (pathOf_ne_nil start proper) name]

theorem extension_pathOf (start : root ≠ []) (proper : ∀ d ∈ names, IsName d) (name : IsName c) :
    Path.extension (pathOf root (names ++ [c])) = Path.extension c := by
  rw [← pathOf_concat start proper name, Path.extension_join (pathOf_ne_nil start proper) name]

theorem relativeOf_injective {names' : List Bytes} (proper : ∀ d ∈ names, IsName d)
    (proper' : ∀ d ∈ names', IsName d) (some : names ≠ []) (some' : names' ≠ [])
    (same : relativeOf names = relativeOf names') : names = names' := by
  have split := Path.parts_join some fun d member => (proper d member).whole
  have split' := Path.parts_join some' fun d member => (proper' d member).whole
  exact split.symm.trans ((congrArg Path.parts same).trans split')

end Paths

section Found

variable {w : Walk} {ignore : Ignore} {root c text : Bytes} {above : List Bytes}
  {es inside : List (Bytes × Node)} {f : Source}

theorem Found.mono {es' : List (Bytes × Node)} (found : Found w ignore root above es f)
    (within : ∀ e ∈ es, e ∈ es') : Found w ignore root above es' f := by
  cases found with
  | file member admits => exact .file (within _ member) admits
  | folder member enters found => exact .folder (within _ member) enters found

theorem found_cons {e : Bytes × Node} : Found w ignore root above (e :: es) f ↔
    Found w ignore root above [e] f ∨ Found w ignore root above es f := by
  constructor
  · intro found
    cases found with
    | file member admits =>
      rcases List.mem_cons.mp member with rfl | member
      · exact .inl (.file (by simp) admits)
      · exact .inr (.file member admits)
    | folder member enters found =>
      rcases List.mem_cons.mp member with rfl | member
      · exact .inl (.folder (by simp) enters found)
      · exact .inr (.folder member enters found)
  · rintro (found | found)
    · exact found.mono (by simp)
    · exact found.mono fun d member => by simp [member]

theorem found_file : Found w ignore root above [(c, .file text)] f ↔ w.Admits ignore above c text ∧
    f = ⟨pathOf root (above ++ [c]), relativeOf (above ++ [c]), text⟩ := by
  constructor
  · intro found
    cases found with
    | file member admits =>
      cases List.mem_singleton.mp member
      exact ⟨admits, rfl⟩
    | folder member => cases List.mem_singleton.mp member
  · rintro ⟨admits, rfl⟩
    exact .file (by simp) admits

theorem found_folder : Found w ignore root above [(c, .folder inside)] f ↔
    w.Enters ignore above c ∧ Found w ignore root (above ++ [c]) inside f := by
  constructor
  · intro found
    cases found with
    | file member => cases List.mem_singleton.mp member
    | folder member enters found =>
      cases List.mem_singleton.mp member
      exact ⟨enters, found⟩
  · rintro ⟨enters, found⟩
    exact .folder (by simp) enters found

theorem not_found_link {target : Bytes} : ¬ Found w ignore root above [(c, .link target)] f := by
  intro found
  cases found with
  | file member => cases List.mem_singleton.mp member
  | folder member => cases List.mem_singleton.mp member

theorem Found.named (found : Found w ignore root above es f) (proper : (Node.folder es).Proper) :
    ∃ e ∈ es, ∃ rest, (∀ d ∈ e.1 :: rest, IsName d) ∧ f.relative = relativeOf (above ++ e.1 :: rest) := by
  induction found with
  | file member =>
    cases proper with
    | folder _ names => exact ⟨_, member, [], by simpa using names _ member, rfl⟩
  | folder member _ _ ih =>
    cases proper with
    | folder _ names inside =>
      obtain ⟨e, _, rest, named, relative⟩ := ih (inside _ member)
      refine ⟨_, member, e.1 :: rest, ?_, by simpa using relative⟩
      intro d at_d
      rcases List.mem_cons.mp at_d with rfl | at_d
      · exact names _ member
      · exact named d at_d

theorem Found.apart {e : Bytes × Node} {g : Source} (proper : (Node.folder (e :: es)).Proper)
    (names : ∀ d ∈ above, IsName d) (found : Found w ignore root above [e] f)
    (other : Found w ignore root above es g) : f.relative ≠ g.relative := by
  intro same
  have rest := proper.tail
  cases proper with
  | folder distinct named inside =>
    rw [List.map_cons, List.nodup_cons] at distinct
    have single : (Node.folder [e]).Proper :=
      .folder (by simp) (by simpa using named e (by simp)) (by simpa using inside e (by simp))
    obtain ⟨d, at_d, below, told, relative⟩ := found.named single
    obtain ⟨d', at_d', below', told', relative'⟩ := other.named rest
    cases List.mem_singleton.mp at_d
    rw [relative, relative'] at same
    have names_eq := relativeOf_injective
      (fun x at_x => (List.mem_append.mp at_x).elim (names x) (told x))
      (fun x at_x => (List.mem_append.mp at_x).elim (names x) (told' x)) (by simp) (by simp) same
    have first : e.1 = d'.1 := (List.cons.inj (List.append_cancel_left names_eq)).1
    exact distinct.1 (first ▸ List.mem_map_of_mem at_d')

end Found

def Gathers (w : Walk) (ignore : Ignore) (root : Bytes) (above : List Bytes)
    (es : List (Bytes × Node)) (s s' : State) : Prop :=
  ∃ found, s'.files = found ++ s.files ∧ (found.map Source.relative).Nodup ∧
    ∀ f, f ∈ found ↔ Found w ignore root above es f

/-- The cleaned path leads to the entry, or nowhere. -/
def Leads (t : FileTree) (path : Bytes) (n : Node) : Prop :=
  ∀ m, t.node true (Path.clean path) = .ok m → m = n

section Step

variable {w : Walk} {t : FileTree} {ignore : Ignore} {root c : Bytes} {above : List Bytes}
  {es : List (Bytes × Node)} {s s' s'' : State}

theorem gathers_nothing {e : Bytes × Node} (same : s'.files = s.files)
    (none : ∀ f, ¬ Found w ignore root above [e] f) : w.Gathers ignore root above [e] s s' :=
  ⟨[], same, .nil, fun f =>
    ⟨fun member => (List.not_mem_nil member).elim, fun found => (none f found).elim⟩⟩

theorem Gathers.cons {e : Bytes × Node} (proper : (Node.folder (e :: es)).Proper)
    (names : ∀ d ∈ above, IsName d) (first : w.Gathers ignore root above [e] s s')
    (rest : w.Gathers ignore root above es s' s'') : w.Gathers ignore root above (e :: es) s s'' := by
  obtain ⟨found, files, distinct, listed⟩ := first
  obtain ⟨found', files', distinct', listed'⟩ := rest
  refine ⟨found' ++ found, by rw [files', files, List.append_assoc], ?_, fun f => ?_⟩
  · rw [List.map_append, List.nodup_append]
    refine ⟨distinct', distinct, ?_⟩
    intro x at_x y at_y same
    obtain ⟨g, at_g, rfl⟩ := List.mem_map.mp at_x
    obtain ⟨f, at_f, rfl⟩ := List.mem_map.mp at_y
    exact ((listed f).mp at_f).apart proper names ((listed' g).mp at_g) same.symm
  · rw [List.mem_append, listed, listed', or_comm]
    exact found_cons.symm

theorem takeFile_files {path relative text : Bytes}
    (same : ∀ other, t.read path = .ok other → other = text)
    (done : w.takeFile t s path relative text.length = .ok s') :
    w.Readable text ∧ s'.files = ⟨path, relative, text⟩ :: s.files ∨
      ¬ w.Readable text ∧ s'.files = s.files := by
  unfold takeFile at done
  split at done
  · rename_i large
    simp only [Bool.and_eq_true, decide_eq_true_eq] at large
    cases done
    exact .inr ⟨fun h => absurd (h.small large.1) (by omega), rfl⟩
  rename_i small
  simp only [Bool.and_eq_true, decide_eq_true_eq] at small
  split at done
  · cases done
  rename_i other read
  cases same other read
  split at done
  · rename_i binary
    cases done
    refine .inr ⟨fun h => h.no_zero ?_, rfl⟩
    simpa [looksBinary, sampleSize] using binary
  · rename_i plain
    cases done
    refine .inl ⟨⟨by omega, ?_⟩, rfl⟩
    simpa [looksBinary, sampleSize] using plain

theorem respects (off : w.respectIgnore = false → ignore = {}) {path : Bytes} {folder : Bool} :
    (w.respectIgnore = true → ignore.ignores path folder = false) ↔
      ignore.ignores path folder = false := by
  cases on : w.respectIgnore with
  | true => simp
  | false =>
    rw [off on]
    simp [Ignore.ignores]

theorem wanted_iff {path : Bytes} :
    w.wanted path = true ↔ Text.lower (Path.extension path) ∈ w.extensions.map Text.lower := by
  rw [wanted, List.contains_iff_mem]

theorem Leads.into {n : Node} (leads : Leads t (pathOf root above) (.folder es)) (start : root ≠ [])
    (names : ∀ d ∈ above, IsName d) (name : IsName c) (distinct : (es.map Prod.fst).Nodup)
    (member : (c, n) ∈ es) (real : ∀ target, n ≠ .link target) :
    Leads t (pathOf root (above ++ [c])) n := by
  intro m found
  rw [clean_pathOf start names name, ← pathOf_concat start names name] at found
  exact FileTree.node_child (pathOf_ne_nil start names) name leads
    (Node.child?_of_mem distinct member) real found

section Entry

variable {inside : Bytes → Bytes → State → List (Bytes × Node) → Outcome}

theorem file_gathers {text : Bytes} (off : w.respectIgnore = false → ignore = {}) (start : root ≠ [])
    (names : ∀ d ∈ above, IsName d) (name : IsName c)
    (leads : Leads t (pathOf root (above ++ [c])) (.file text))
    (done : w.entry t ignore inside (pathOf root above) (relativeOf above) s (c, .file text) =
      .ok s') : w.Gathers ignore root above [(c, .file text)] s s' := by
  have read : ∀ other, t.read (pathOf root (above ++ [c])) = .ok other → other = text := by
    intro other found
    have at_path := leads (.file other)
      (by rw [clean_pathOf start names name]; exact FileTree.read_eq_ok.mp found)
    exact Node.file.inj at_path
  simp only [entry, relativeOf_concat names, pathOf_concat start names name, Bool.not_eq_true',
    ← Bool.not_eq_true, wanted_iff, extension_pathOf start names name] at done
  split at done
  · rename_i unwanted
    cases done
    refine gathers_nothing rfl fun f found => unwanted (found_file.mp found).1.wanted
  rename_i wanted
  split at done
  · rename_i ignored
    cases done
    refine gathers_nothing rfl fun f found => ?_
    have kept := (respects off).mp (found_file.mp found).1.not_ignored
    exact absurd ignored (by simp [kept])
  rename_i kept
  rcases takeFile_files read done with ⟨readable, files⟩ | ⟨unreadable, files⟩
  · refine ⟨[_], files, by simp, fun f => ?_⟩
    rw [found_file, List.mem_singleton]
    exact ⟨fun same => ⟨⟨readable, (respects off).mpr (by simpa using kept), Decidable.not_not.mp wanted⟩, same⟩,
      fun found => found.2⟩
  · exact gathers_nothing files fun f found => unreadable (found_file.mp found).1.toReadable

theorem folder_gathers {es' : List (Bytes × Node)} (off : w.respectIgnore = false → ignore = {})
    (start : root ≠ []) (names : ∀ d ∈ above, IsName d) (name : IsName c)
    (leads : Leads t (pathOf root (above ++ [c])) (.folder es'))
    (below : ∀ s s', inside (pathOf root (above ++ [c])) (relativeOf (above ++ [c])) s es' = .ok s' →
      w.Gathers ignore root (above ++ [c]) es' s s')
    (done : w.entry t ignore inside (pathOf root above) (relativeOf above) s (c, .folder es') =
      .ok s') : w.Gathers ignore root above [(c, .folder es')] s s' := by
  simp only [entry, relativeOf_concat names, pathOf_concat start names name] at done
  split at done
  · rename_i barred
    cases done
    refine gathers_nothing rfl fun f found => ?_
    have enters := (found_folder.mp found).1
    have kept := (respects off).mp enters.not_ignored
    simp [kept, enters.not_skipped] at barred
  rename_i free
  simp only [Bool.or_eq_true, List.contains_iff_mem, not_or, Bool.not_eq_true] at free
  split at done
  · cases done
  rename_i listed found
  have at_path := leads (.folder listed)
    (by rw [clean_pathOf start names name]; exact FileTree.list_eq_ok.mp found)
  cases at_path
  obtain ⟨found, files, distinct, all⟩ := below _ _ done
  refine ⟨found, files, distinct, fun f => ?_⟩
  rw [all, found_folder]
  exact ⟨fun inside => ⟨⟨free.1, (respects off).mpr free.2⟩, inside⟩, fun both => both.2⟩

end Entry

/-- Entries in turn: the walk finds what lies in them, if it does so for each of them. -/
theorem entries_gather {step : State → Bytes × Node → Outcome} (names : ∀ d ∈ above, IsName d)
    (proper : (Node.folder es).Proper)
    (each : ∀ e ∈ es, ∀ s s', step s e = .ok s' → w.Gathers ignore root above [e] s s')
    (done : es.foldlM step s = .ok s') : w.Gathers ignore root above es s s' := by
  induction es generalizing s with
  | nil =>
    cases done
    exact ⟨[], rfl, .nil, fun f => ⟨fun member => (List.not_mem_nil member).elim, nofun⟩⟩
  | cons e es ih =>
    rw [List.foldlM_cons] at done
    cases first : step s e with
    | error stop =>
      rw [first] at done
      cases done
    | ok middle =>
      rw [first] at done
      exact (each e (by simp) s middle first).cons proper names
        (ih proper.tail (fun d member => each d (by simp [member])) done)

theorem folder_finds (off : w.respectIgnore = false → ignore = {}) (start : root ≠ []) (depth : Nat) :
    ∀ {above es s s'}, (∀ d ∈ above, IsName d) → (Node.folder es).Proper →
      Leads t (pathOf root above) (.folder es) →
      w.folder t ignore depth (pathOf root above) (relativeOf above) s es = .ok s' →
      w.Gathers ignore root above es s s' := by
  -- the invariant that goes down with the walk is where the path of a folder leads
  induction depth with
  | zero => exact fun _ _ _ done => nomatch done
  | succ depth ih =>
    intro above es s s' names proper leads done
    refine entries_gather names proper ?_ done
    rintro ⟨c, n⟩ member s s' taken
    cases proper with
    | folder distinct named inside =>
      have name : IsName c := named _ member
      cases n with
      | link target =>
        cases taken
        exact gathers_nothing rfl fun f => not_found_link
      | file text =>
        have at_file := leads.into start names name distinct member (by simp)
        exact file_gathers off start names name at_file taken
      | folder es' =>
        have at_folder := leads.into start names name distinct member (by simp)
        have names' : ∀ d ∈ above ++ [c], IsName d := by
          simpa [or_imp, forall_and] using ⟨names, name⟩
        exact folder_gathers off start names name at_folder
          (fun s s' walked => ih names' (inside _ member) at_folder walked) taken

end Step

/-- The source is a file, at any depth below a folder, that meets all conditions: the walk
goes into each folder on the way to it, and takes it in. -/
def Below (w : Walk) (ignore : Ignore) (root : Bytes) (above : List Bytes)
    (es : List (Bytes × Node)) (f : Source) : Prop :=
  ∃ folders name text, (Node.folder es).descend? (folders ++ [name]) = some (.file text) ∧
    (∀ mid base, mid ++ [base] <+: folders → w.Enters ignore (above ++ mid) base) ∧
    w.Admits ignore (above ++ folders) name text ∧
    f = ⟨pathOf root (above ++ folders ++ [name]), relativeOf (above ++ folders ++ [name]), text⟩

section Below

variable {w : Walk} {ignore : Ignore} {root : Bytes} {above : List Bytes}
  {es : List (Bytes × Node)} {f : Source}

theorem Found.lies_below (found : Found w ignore root above es f) (proper : (Node.folder es).Proper) :
    w.Below ignore root above es f := by
  induction found with
  | @file above es name text member admits =>
    cases proper with
    | folder distinct =>
      refine ⟨[], name, text, ?_, by simp, by simpa using admits, by simp⟩
      rw [List.nil_append, Node.descend?_single, Node.child?_of_mem distinct member]
  | @folder above es base inside f member enters _ ih =>
    cases proper with
    | folder distinct _ proper =>
      obtain ⟨folders, name, text, at_file, entered, admits, rfl⟩ := ih (proper _ member)
      refine ⟨base :: folders, name, text, ?_, ?_, by simpa using admits, by simp⟩
      · rw [List.cons_append, Node.descend?, Node.child?_of_mem distinct member]
        exact at_file
      · intro mid last within
        cases mid with
        | nil =>
          cases (List.cons_prefix_cons.mp within).1
          simpa using enters
        | cons d mid =>
          obtain ⟨rfl, deeper⟩ := List.cons_prefix_cons.mp within
          simpa using entered mid last deeper

theorem Below.found (below : w.Below ignore root above es f) : Found w ignore root above es f := by
  obtain ⟨folders, name, text, at_file, entered, admits, rfl⟩ := below
  induction folders generalizing above es with
  | nil =>
    rw [List.nil_append, Node.descend?_single] at at_file
    rw [List.append_nil] at admits ⊢
    exact .file (Node.mem_of_child? at_file) admits
  | cons base folders ih =>
    rw [List.cons_append, Node.descend?] at at_file
    split at at_file
    · rename_i n child
      obtain ⟨inside, rfl⟩ := Node.folder_of_descend? at_file (by simp)
      have member := Node.mem_of_child? child
      have enters : w.Enters ignore above base := by simpa using entered [] base (by simp)
      refine .folder member enters ?_
      have entered' : ∀ mid last, mid ++ [last] <+: folders →
          w.Enters ignore (above ++ [base] ++ mid) last := by
        intro mid last within
        simpa using entered (base :: mid) last (List.cons_prefix_cons.mpr ⟨rfl, within⟩)
      have admits' : w.Admits ignore (above ++ [base] ++ folders) name text := by
        simpa using admits
      simpa using ih at_file entered' admits'
    · cases at_file

end Below

/-- A walk found exactly the files below its root that meet all conditions, each once and
in the order of their relative paths. -/
structure Exact (w : Walk) (t : FileTree) (root : Bytes) (es : List (Bytes × Node))
    (files : List Source) : Prop where
  increasing : files.Pairwise fun f g => f.relative < g.relative
  found : ∃ ignore, (w.respectIgnore = true → loadIgnore t root = .ok ignore) ∧
    ∀ f, f ∈ files ↔ w.Below ignore root [] es f

theorem increasing_of_distinct {files : List Source}
    (distinct : (files.map Source.relative).Nodup) :
    (files.mergeSort byRelative).Pairwise fun f g => f.relative < g.relative := by
  have ordered : (files.mergeSort byRelative).Pairwise fun f g => byRelative f g = true := by
    apply List.pairwise_mergeSort
    · intro f g h
      simp only [byRelative, Bytes.le_iff]
      exact Std.le_trans
    · intro f g
      simp only [byRelative, Bool.or_eq_true, Bytes.le_iff]
      exact Std.le_total
  have apart : (files.mergeSort byRelative).Pairwise fun f g => f.relative ≠ g.relative :=
    List.pairwise_map.mp (((List.mergeSort_perm files byRelative).map _).nodup_iff.mpr distinct)
  refine (ordered.and apart).imp ?_
  rintro f g ⟨le, ne⟩
  exact Std.lt_of_le_of_ne (Bytes.le_iff.mp le) ne

/-- Files with different relative paths can be sorted in one way only. -/
theorem mergeSort_eq {found files : List Source} (same : found.Perm files)
    (increasing : files.Pairwise fun f g => f.relative < g.relative) :
    found.mergeSort byRelative = files := by
  have distinct : (files.map Source.relative).Nodup :=
    List.pairwise_map.mpr (increasing.imp Std.ne_of_lt)
  have sorted := increasing_of_distinct ((same.map _).nodup_iff.mpr distinct)
  exact List.Perm.eq_of_pairwise (fun f g _ _ before behind => (Std.lt_irrefl (Std.lt_trans before behind)).elim)
    sorted increasing ((List.mergeSort_perm found byRelative).trans same)

/-- A walk from a folder returns the files that come up in it, sorted. -/
theorem run_files {w : Walk} {t : FileTree} {root : Bytes} {ignore : Ignore} {s : State}
    {files : List Source} (es : List (Bytes × Node)) (found : List Source)
    (dir : t.node false root = .ok (.folder es))
    (loaded : (if w.respectIgnore then loadIgnore t root else .ok {}) = .ok ignore)
    (start : s = if w.respectIgnore then
        State.note {} Log.debug "loaded gitignore"
          [Log.text "root" root, Log.int "patterns" ignore.lines.length]
      else {})
    (walked : (w.folder t ignore (FileTree.longestPath + 1) root [] s es).toOption.map State.files =
      some found)
    (same : found.Perm files)
    (increasing : files.Pairwise fun f g => f.relative < g.relative) :
    (w.run t false root).1 = .ok files := by
  have at_root : t.node true root = .ok (.folder es) := FileTree.node_followed dir (by simp)
  obtain ⟨done, outcome, rfl⟩ := Option.map_eq_some_iff.mp walked
  have ended : w.folder t ignore (FileTree.longestPath + 1) root [] s es = .ok done := by
    cases result : w.folder t ignore (FileTree.longestPath + 1) root [] s es with
    | ok done' =>
      rw [result] at outcome
      exact congrArg Except.ok (Option.some.inj outcome)
    | error _ =>
      rw [result] at outcome
      cases outcome
  rw [start] at ended
  have sorted := mergeSort_eq ((List.reverse_perm _).trans same) increasing
  simp only [run, FileTree.stat, at_root, fromFolder, loaded, dir, ended, sorted,
    Bool.false_eq_true, if_false]

theorem exact_of_gathers {w : Walk} {t : FileTree} {ignore : Ignore} {root : Bytes}
    {es : List (Bytes × Node)} {s s' : State} (proper : (Node.folder es).Proper)
    (loaded : w.respectIgnore = true → loadIgnore t root = .ok ignore) (fresh : s.files = [])
    (gathers : w.Gathers ignore root [] es s s') :
    w.Exact t root es (s'.files.reverse.mergeSort byRelative) := by
  obtain ⟨found, files, distinct, listed⟩ := gathers
  rw [fresh, List.append_nil] at files
  rw [files]
  refine ⟨increasing_of_distinct ?_, ignore, loaded, fun f => ?_⟩
  · rw [List.map_reverse]
    exact (List.reverse_perm _).nodup_iff.mpr distinct
  · rw [List.mem_mergeSort, List.mem_reverse, listed]
    exact ⟨fun found => found.lies_below proper, fun below => below.found⟩

end Walk

/-- A walk is exact. The root is itself a folder, and cleaning its path does not lead away
from it, as is the case if it has no double dots. -/
theorem walk_exact (w : Walk) (t : FileTree) (cancelled : Bool) (root : Bytes)
    (es : List (Bytes × Node)) (proper : (Node.folder es).Proper)
    (dir : t.node false root = .ok (.folder es))
    (settled : Path.dotdot ∉ Path.parts root ∨
      ∀ n, t.node true (Path.clean root) = .ok n → n = .folder es)
    (files : List Source) (log : List Log.Entry)
    (done : w.run t cancelled root = (.ok files, log)) : w.Exact t root es files := by
  have at_root : t.node true root = .ok (.folder es) := FileTree.node_followed dir (by simp)
  have leads : Walk.Leads t (Walk.pathOf root []) (.folder es) := by
    intro n cleaned
    rcases settled with plain | lone
    · exact FileTree.node_clean plain at_root cleaned
    · exact lone n cleaned
  have start : root ≠ [] := (FileTree.node_eq_ok.mp dir).1.some
  simp only [Walk.run, FileTree.stat, at_root, Walk.fromFolder, dir] at done
  split at done
  · cases done
  rename_i ignore loading
  split at done
  · cases done
  split at done
  · cases done
  rename_i s' walked
  cases done
  have off : w.respectIgnore = false → ignore = {} := by
    intro off
    rw [off] at loading
    exact (Except.ok.inj loading).symm
  have loaded : w.respectIgnore = true → Walk.loadIgnore t root = .ok ignore := by
    intro on
    rwa [on] at loading
  refine Walk.exact_of_gathers proper loaded ?_
    (Walk.folder_finds off start _ (by simp) proper leads walked)
  split <;> rfl

/-- A folder with an ignore list, a folder it bars and a link. The walk comes to the
file in `lib` before `lib.JS`, which is the first in order. -/
def branchedEntries : List (Bytes × Node) :=
  [(Bytes.of ".gitignore", .file (Bytes.of "out/\n")),
   (Bytes.of "lib", .folder [(Bytes.of "a.js", .file (Bytes.of "one\n"))]),
   (Bytes.of "lib.JS", .file (Bytes.of "two\n")),
   (Bytes.of "old", .link (Bytes.of "lib")),
   (Bytes.of "out", .folder [(Bytes.of "b.js", .file (Bytes.of "three\n"))])]

def branchedTree : FileTree := ⟨.folder [(Bytes.of "p", .folder branchedEntries)], []⟩

def branchedWalk : Walk := ⟨[Bytes.of ".js"], [], true, 0⟩

def branchedRoot : Bytes := Bytes.of "p/../p"

def branchedFiles : List Source :=
  [⟨Bytes.of "p/lib.JS", Bytes.of "lib.JS", Bytes.of "two\n"⟩,
   ⟨Bytes.of "p/lib/a.js", Bytes.of "lib/a.js", Bytes.of "one\n"⟩]

theorem branchedEntries_proper : (Node.folder branchedEntries).Proper := by
  refine .folder (by decide +kernel) (by decide +kernel) ?_
  simp only [branchedEntries, List.forall_mem_cons, List.not_mem_nil, false_implies, implies_true,
    and_true]
  refine ⟨.file _, ?_, .file _, .link _, ?_⟩
  all_goals exact .folder (by decide +kernel) (by decide +kernel) (by simpa using .file _)

def branchedIgnore : Ignore :=
  ⟨[⟨false, true, false, [.one (.only 'o'), .one (.only 'u'), .one (.only 't')]⟩]⟩

theorem branchedTree_ignore :
    Walk.loadIgnore branchedTree branchedRoot = .ok branchedIgnore := by
  decide +kernel

theorem branchedTree_run :
    (branchedWalk.run branchedTree false branchedRoot).1 = .ok branchedFiles := by
  exact Walk.run_files branchedEntries branchedFiles (by decide +kernel) branchedTree_ignore rfl
    (by decide +kernel) (.refl _) (by decide +kernel)

/-- The root of this walk has double dots, and its cleaned path leads to the same folder. -/
theorem branchedTree_walked : Path.dotdot ∈ Path.parts branchedRoot ∧
    branchedTree.node false branchedRoot = .ok (.folder branchedEntries) ∧
    branchedWalk.Exact branchedTree branchedRoot branchedEntries branchedFiles := by
  have dir : branchedTree.node false branchedRoot = .ok (.folder branchedEntries) := by decide +kernel
  have cleaned : branchedTree.node true (Path.clean branchedRoot) =
      .ok (.folder branchedEntries) := by decide +kernel
  refine ⟨by decide +kernel, dir, ?_⟩
  refine walk_exact branchedWalk branchedTree false branchedRoot branchedEntries
    branchedEntries_proper dir (.inr ?_) branchedFiles _ (Prod.ext branchedTree_run rfl)
  intro n found
  exact Except.ok.inj (found.symm.trans cleaned)

def strayEntries : List (Bytes × Node) := [(Bytes.of "f.js", .file (Bytes.of "in\n"))]

def strayTree : FileTree :=
  ⟨.folder
    [(Bytes.of "a", .link (Bytes.of "c/d")),
     (Bytes.of "b", .folder [(Bytes.of "f.js", .file (Bytes.of "outside\n"))]),
     (Bytes.of "c", .folder [(Bytes.of "b", .folder strayEntries), (Bytes.of "d", .folder [])])], []⟩

def strayWalk : Walk := ⟨[Bytes.of ".js"], [], false, 0⟩

def strayRoot : Bytes := Bytes.of "a/../b"

def strayFile : Source := ⟨Bytes.of "b/f.js", Bytes.of "f.js", Bytes.of "outside\n"⟩

/-- Without the condition on the cleaned root, a walk can return the text of a file that
does not lie below the root. -/
theorem walk_leaves_root : (Node.folder strayEntries).Proper ∧
    strayTree.node false strayRoot = .ok (.folder strayEntries) ∧
    (strayWalk.run strayTree false strayRoot).1 = .ok [strayFile] ∧
    ¬ strayWalk.Exact strayTree strayRoot strayEntries [strayFile] := by
  refine ⟨.folder (by decide +kernel) (by decide +kernel) ?_, by decide +kernel, by decide +kernel, fun exact => ?_⟩
  · simpa [strayEntries] using .file _
  obtain ⟨ignore, -, listed⟩ := exact.found
  have found := ((listed strayFile).mp (by simp)).found
  generalize same : strayFile = f at found
  cases found with
  | file member =>
    have text := congrArg Source.text same
    cases List.mem_singleton.mp member
    exact absurd text (by decide +kernel)
  | folder member => cases List.mem_singleton.mp member

end SpanGauge
