import Mathlib.Data.List.Induction
import Mathlib.Data.List.Nodup
import Mathlib.Logic.ExistsUnique
import SpanGauge.Proofs.Walk.Exact

/-! The sources below several roots. Walks from overlapping roots come to the same file by
different ways; the file is told by its cleaned path, and its record from the first walk that
comes to it is the one that stays. -/
namespace SpanGauge

theorem Node.Proper.descend {n m : Node} {cs : List Bytes} (proper : n.Proper)
    (found : n.descend? cs = some m) : m.Proper := by
  induction cs generalizing n with
  | nil =>
    cases found
    exact proper
  | cons c cs ih =>
    obtain ⟨es, rfl⟩ := Node.folder_of_descend? found (by simp)
    rw [Node.descend?] at found
    split at found
    · rename_i child at_c
      cases proper with
      | folder _ _ inside => exact ih (inside _ (Node.mem_of_child? at_c)) found
    · cases found

theorem Node.Proper.of_node {t : FileTree} (tree : t.top.Proper) {follow : Bool} {path : Bytes}
    {n : Node} (found : t.node follow path = .ok n) : n.Proper := by
  obtain ⟨-, names, -, at_n⟩ := FileTree.node_eq_ok.mp found
  exact tree.descend at_n

namespace Walk

open SpanGauge.Path (IsName)

def cleaned (f : Source) : Bytes := Path.clean f.path

section Distinct

variable {seen seen' : List Bytes} {fs gs : List Source} {f g : Source}

theorem distinct_cons_seen (known : cleaned f ∈ seen) :
    distinct seen (f :: fs) = distinct seen fs :=
  if_pos (List.contains_iff_mem.mpr known)

theorem distinct_cons_new (fresh : cleaned f ∉ seen) :
    distinct seen (f :: fs) = f :: distinct (cleaned f :: seen) fs :=
  if_neg fun known => fresh (List.contains_iff_mem.mp known)

theorem distinct_congr (same : ∀ p, p ∈ seen ↔ p ∈ seen') :
    distinct seen fs = distinct seen' fs := by
  induction fs generalizing seen seen' with
  | nil => rfl
  | cons f fs ih =>
    by_cases known : cleaned f ∈ seen
    · rw [distinct_cons_seen known, distinct_cons_seen ((same _).mp known), ih same]
    · have more : ∀ p, p ∈ cleaned f :: seen ↔ p ∈ cleaned f :: seen' := by
        intro p
        rw [List.mem_cons, List.mem_cons, same p]
      rw [distinct_cons_new known, distinct_cons_new fun h => known ((same _).mpr h), ih more]

theorem distinct_append :
    distinct seen (fs ++ gs) = distinct seen fs ++ distinct (fs.map cleaned ++ seen) gs := by
  induction fs generalizing seen with
  | nil => rfl
  | cons f fs ih =>
    by_cases known : cleaned f ∈ seen
    · rw [List.cons_append, distinct_cons_seen known, distinct_cons_seen known, ih]
      congr 1
      refine distinct_congr fun p => ?_
      simp only [List.map_cons, List.cons_append, List.mem_cons, List.mem_append]
      exact ⟨.inr, fun h => h.elim (fun here => .inr (here ▸ known)) id⟩
    · rw [List.cons_append, distinct_cons_new known, distinct_cons_new known, ih, List.cons_append]
      congr 2
      refine distinct_congr fun p => ?_
      simp only [List.map_cons, List.cons_append, List.mem_cons, List.mem_append]
      exact or_left_comm

theorem distinct_of_seen (known : ∀ f ∈ fs, cleaned f ∈ seen) : distinct seen fs = [] := by
  induction fs with
  | nil => rfl
  | cons f fs ih =>
    rw [distinct_cons_seen (known f List.mem_cons_self)]
    exact ih fun g member => known g (List.mem_cons_of_mem f member)

/-- What stays is, for each path not seen before, the first source with that path. -/
theorem mem_distinct : g ∈ distinct seen fs ↔
    cleaned g ∉ seen ∧ fs.find? (cleaned · == cleaned g) = some g := by
  induction fs generalizing seen with
  | nil => simp [distinct]
  | cons f fs ih =>
    by_cases same : cleaned f = cleaned g
    · rw [List.find?_cons_of_pos (by simpa using same), Option.some.injEq]
      by_cases known : cleaned f ∈ seen
      · rw [distinct_cons_seen known, ih, ← same]
        simp [known]
      · rw [distinct_cons_new known, List.mem_cons, ih, ← same]
        simp [known, eq_comm]
    · rw [List.find?_cons_of_neg (by simpa using same)]
      by_cases known : cleaned f ∈ seen
      · rw [distinct_cons_seen known, ih]
      · rw [distinct_cons_new known, List.mem_cons, ih, List.mem_cons, not_or]
        constructor
        · rintro (rfl | ⟨⟨-, fresh⟩, first⟩)
          · exact absurd rfl same
          · exact ⟨fresh, first⟩
        · rintro ⟨fresh, first⟩
          exact .inr ⟨⟨Ne.symm same, fresh⟩, first⟩

theorem mem_paths_distinct {p : Bytes} : p ∈ (distinct seen fs).map cleaned ↔
    p ∈ fs.map cleaned ∧ p ∉ seen := by
  constructor
  · intro member
    obtain ⟨g, at_g, rfl⟩ := List.mem_map.mp member
    obtain ⟨fresh, first⟩ := mem_distinct.mp at_g
    exact ⟨List.mem_map_of_mem (List.mem_of_find?_eq_some first), fresh⟩
  · rintro ⟨member, fresh⟩
    obtain ⟨f, at_f, rfl⟩ := List.mem_map.mp member
    have found : (fs.find? (cleaned · == cleaned f)).isSome = true :=
      List.find?_isSome.mpr ⟨f, at_f, beq_self_eq_true (cleaned f)⟩
    obtain ⟨g, first⟩ := Option.isSome_iff_exists.mp found
    have same : cleaned g = cleaned f := by simpa using List.find?_some first
    rw [← same] at first fresh
    exact List.mem_map.mpr ⟨g, mem_distinct.mpr ⟨fresh, first⟩, same⟩

theorem distinct_ordered (seen : List Bytes) (fs : List Source) :
    (distinct seen fs).Pairwise fun f g =>
      (fs.map cleaned).idxOf (cleaned f) < (fs.map cleaned).idxOf (cleaned g) := by
  induction fs generalizing seen with
  | nil => exact .nil
  | cons f fs ih =>
    -- behind the first source, a path other than its own comes up one place later
    have later : ∀ {seen : List Bytes}, cleaned f ∈ seen → ∀ g ∈ distinct seen fs,
        ((f :: fs).map cleaned).idxOf (cleaned g) = (fs.map cleaned).idxOf (cleaned g) + 1 := by
      intro seen known g member
      have other : cleaned f ≠ cleaned g := fun same => (mem_distinct.mp member).1 (same ▸ known)
      rw [List.map_cons, List.idxOf_cons_ne _ other]
    have rest : ∀ {seen : List Bytes}, cleaned f ∈ seen → (distinct seen fs).Pairwise fun g h =>
        ((f :: fs).map cleaned).idxOf (cleaned g) < ((f :: fs).map cleaned).idxOf (cleaned h) := by
      intro seen known
      refine (ih seen).imp_of_mem fun {g h} at_g at_h less => ?_
      rw [later known g at_g, later known h at_h]
      exact Nat.succ_lt_succ less
    by_cases known : cleaned f ∈ seen
    · rw [distinct_cons_seen known]
      exact rest known
    · rw [distinct_cons_new known, List.pairwise_cons]
      refine ⟨fun g member => ?_, rest List.mem_cons_self⟩
      rw [later List.mem_cons_self g member, List.map_cons, List.idxOf_cons_self]
      exact Nat.succ_pos _

end Distinct

section Gather

variable {w : Walk} {t : FileTree} {cancelled : Bool} {roots : List Bytes}

def sources (w : Walk) (t : FileTree) (cancelled : Bool) (root : Bytes) : List Source :=
  (w.run t cancelled root).1.toOption.getD []

def Succeeds (w : Walk) (t : FileTree) (cancelled : Bool) (root : Bytes) : Prop :=
  (w.run t cancelled root).1 = .ok (w.sources t cancelled root)

theorem sources_of_run {root : Bytes} {fs : List Source}
    (done : (w.run t cancelled root).1 = .ok fs) : w.sources t cancelled root = fs := by
  rw [sources, done]
  rfl

theorem succeeds_of_run {root : Bytes} {fs : List Source}
    (done : (w.run t cancelled root).1 = .ok fs) : w.Succeeds t cancelled root := by
  rw [Succeeds, sources_of_run done, done]

theorem succeeds_or_fails (w : Walk) (t : FileTree) (cancelled : Bool) (root : Bytes) :
    w.Succeeds t cancelled root ∨ ∃ fault, (w.run t cancelled root).1 = .error fault := by
  cases outcome : (w.run t cancelled root).1 with
  | ok fs => exact .inl (succeeds_of_run outcome)
  | error fault => exact .inr ⟨fault, rfl⟩

theorem exists_first_failing (some : ¬ ∀ root ∈ roots, w.Succeeds t cancelled root) :
    ∃ before root after fault, roots = before ++ root :: after ∧
      (∀ r ∈ before, w.Succeeds t cancelled r) ∧ (w.run t cancelled root).1 = .error fault := by
  induction roots with
  | nil => exact absurd (fun root member => nomatch member) some
  | cons root roots ih =>
    rcases w.succeeds_or_fails t cancelled root with done | ⟨fault, fails⟩
    · rw [List.forall_mem_cons, not_and] at some
      obtain ⟨before, r, after, fault, rfl, done', fails⟩ := ih (some done)
      exact ⟨root :: before, r, after, fault, rfl, List.forall_mem_cons.mpr ⟨done, done'⟩, fails⟩
    · exact ⟨[], root, roots, fault, rfl, by simp, fails⟩

theorem gather_cons {root : Bytes} (done : w.Succeeds t cancelled root) :
    (w.gather t cancelled (root :: roots)).1 =
      (w.gather t cancelled roots).1.map (w.sources t cancelled root ++ ·) := by
  rw [gather]
  cases first : w.run t cancelled root with
  | mk outcome log =>
    rw [Succeeds, first] at done
    obtain rfl : outcome = _ := done
    cases w.gather t cancelled roots with
    | mk rest more => cases rest <;> rfl

theorem gather_succeeds (all : ∀ root ∈ roots, w.Succeeds t cancelled root) :
    (w.gather t cancelled roots).1 = .ok (roots.flatMap (w.sources t cancelled)) := by
  induction roots with
  | nil => rfl
  | cons root roots ih =>
    rw [gather_cons (all root List.mem_cons_self),
      ih fun r member => all r (List.mem_cons_of_mem root member), List.flatMap_cons]
    rfl

theorem gather_fails {root : Bytes} {fault : Fault} (after : List Bytes)
    (before : ∀ r ∈ roots, w.Succeeds t cancelled r)
    (fails : (w.run t cancelled root).1 = .error fault) :
    (w.gather t cancelled (roots ++ root :: after)).1 = .error fault := by
  induction roots with
  | nil =>
    rw [List.nil_append, gather]
    cases first : w.run t cancelled root with
    | mk outcome log =>
      rw [first] at fails
      obtain rfl : outcome = _ := fails
      rfl
  | cons r roots ih =>
    rw [List.cons_append, gather_cons (before r List.mem_cons_self),
      ih fun r' member => before r' (List.mem_cons_of_mem r member)]
    rfl

theorem runAll_eq (roots : List Bytes) :
    (w.runAll t cancelled roots).1 = (w.gather t cancelled roots).1.map (distinct []) := by
  rw [runAll]
  cases w.gather t cancelled roots with
  | mk outcome log => cases outcome <;> rfl

theorem runAll_succeeds (all : ∀ root ∈ roots, w.Succeeds t cancelled root) :
    (w.runAll t cancelled roots).1 =
      .ok (distinct [] (roots.flatMap (w.sources t cancelled))) := by
  rw [runAll_eq, gather_succeeds all]
  rfl

end Gather

section Paths

variable {root : Bytes} {names names' : List Bytes}

theorem kept_pathOf (start : root ≠ []) (proper : ∀ d ∈ names, IsName d) :
    Path.kept (pathOf root names) = Path.kept root ++ names := by
  induction names using List.reverseRecOn with
  | nil => rw [List.append_nil]; rfl
  | append_singleton names c ih =>
    have proper' : ∀ d ∈ names, IsName d := fun d member => proper d (by simp [member])
    have name : IsName c := proper c (by simp)
    have some := pathOf_ne_nil start proper'
    rw [← pathOf_concat start proper' name, Path.join_eq_clean some name.some, Path.kept_clean,
      Path.kept_append some name, ih proper', List.append_assoc]

theorem pathOf_injective (start : root ≠ []) (proper : ∀ d ∈ names, IsName d)
    (proper' : ∀ d ∈ names', IsName d) (same : pathOf root names = pathOf root names') :
    names = names' := by
  have kept := congrArg Path.kept same
  rw [kept_pathOf start proper, kept_pathOf start proper'] at kept
  exact List.append_cancel_left kept

end Paths

def Under (root : Bytes) (above : List Bytes) (es : List (Bytes × Node)) (f : Source) : Prop :=
  ∃ c ∈ es.map Prod.fst, ∃ rest, (∀ d ∈ above ++ c :: rest, IsName d) ∧
    f.path = pathOf root (above ++ c :: rest)

def Adds (root : Bytes) (above : List Bytes) (es : List (Bytes × Node)) (s s' : State) : Prop :=
  ∃ added, s'.files = added ++ s.files ∧ (added.map Source.path).Nodup ∧
    ∀ f ∈ added, Under root above es f

section Adds

variable {w : Walk} {t : FileTree} {ignore : Ignore} {root c : Bytes} {above : List Bytes}
  {es : List (Bytes × Node)} {s s' s'' : State}

theorem adds_nothing (same : s'.files = s.files) : Adds root above es s s' :=
  ⟨[], same, .nil, fun _ member => (List.not_mem_nil member).elim⟩

theorem Adds.cons {e : Bytes × Node} (start : root ≠ []) (fresh : e.1 ∉ es.map Prod.fst)
    (first : Adds root above [e] s s') (rest : Adds root above es s' s'') :
    Adds root above (e :: es) s s'' := by
  obtain ⟨added, files, apart, under⟩ := first
  obtain ⟨added', files', apart', under'⟩ := rest
  refine ⟨added' ++ added, by rw [files', files, List.append_assoc], ?_, ?_⟩
  · rw [List.map_append, List.nodup_append]
    refine ⟨apart', apart, ?_⟩
    intro p at_p q at_q same
    obtain ⟨f, at_f, rfl⟩ := List.mem_map.mp at_p
    obtain ⟨g, at_g, rfl⟩ := List.mem_map.mp at_q
    obtain ⟨c, at_c, below, named, path⟩ := under' f at_f
    obtain ⟨d, at_d, below', named', path'⟩ := under g at_g
    obtain rfl : d = e.1 := by simpa using at_d
    have names := pathOf_injective start named named' (by rw [← path, ← path', same])
    exact fresh ((List.cons.inj (List.append_cancel_left names)).1 ▸ at_c)
  · intro f member
    rcases List.mem_append.mp member with later | here
    · obtain ⟨c, at_c, below⟩ := under' f later
      exact ⟨c, by simp [at_c], below⟩
    · obtain ⟨c, at_c, below⟩ := under f here
      obtain rfl : c = e.1 := by simpa using at_c
      exact ⟨e.1, by simp, below⟩

theorem takeFile_adds {path relative : Bytes} {size : Nat}
    (done : w.takeFile t s path relative size = .ok s') :
    s'.files = s.files ∨ ∃ text, s'.files = ⟨path, relative, text⟩ :: s.files := by
  unfold takeFile at done
  split at done
  · cases done
    exact .inl rfl
  split at done
  · cases done
  split at done
  · cases done
    exact .inl rfl
  · cases done
    exact .inr ⟨_, rfl⟩

theorem file_adds {text : Bytes} {inside : Bytes → Bytes → State → List (Bytes × Node) → Outcome}
    (start : root ≠ []) (names : ∀ d ∈ above ++ [c], IsName d)
    (done : w.entry t ignore inside (pathOf root above) (relativeOf above) s (c, .file text) =
      .ok s') : Adds root above [(c, .file text)] s s' := by
  have proper : ∀ d ∈ above, IsName d := fun d member => names d (by simp [member])
  have name : IsName c := names c (by simp)
  simp only [entry, relativeOf_concat proper, pathOf_concat start proper name] at done
  split at done
  · cases done
    exact adds_nothing rfl
  split at done
  · cases done
    exact adds_nothing rfl
  rcases takeFile_adds done with same | ⟨text, files⟩
  · exact adds_nothing same
  · exact ⟨[_], files, by simp, fun f member =>
      ⟨c, by simp, [], names, List.mem_singleton.mp member ▸ rfl⟩⟩

theorem folder_adds {n : List (Bytes × Node)}
    {inside : Bytes → Bytes → State → List (Bytes × Node) → Outcome}
    (start : root ≠ []) (names : ∀ d ∈ above ++ [c], IsName d)
    (below : ∀ es s s', t.list (pathOf root (above ++ [c])) = .ok es →
      inside (pathOf root (above ++ [c])) (relativeOf (above ++ [c])) s es = .ok s' →
      Adds root (above ++ [c]) es s s')
    (done : w.entry t ignore inside (pathOf root above) (relativeOf above) s (c, .folder n) =
      .ok s') : Adds root above [(c, .folder n)] s s' := by
  have proper : ∀ d ∈ above, IsName d := fun d member => names d (by simp [member])
  have name : IsName c := names c (by simp)
  simp only [entry, relativeOf_concat proper, pathOf_concat start proper name] at done
  split at done
  · cases done
    exact adds_nothing rfl
  split at done
  · cases done
  rename_i es listed
  obtain ⟨added, files, apart, under⟩ := below _ _ _ listed done
  refine ⟨added, files, apart, fun f member => ?_⟩
  obtain ⟨d, -, rest, named, path⟩ := under f member
  rw [List.append_assoc, List.singleton_append] at named path
  exact ⟨c, by simp, d :: rest, named, path⟩

theorem entries_add {step : State → Bytes × Node → Outcome} (start : root ≠ [])
    (distinct : (es.map Prod.fst).Nodup)
    (each : ∀ e ∈ es, ∀ s s', step s e = .ok s' → Adds root above [e] s s')
    (done : es.foldlM step s = .ok s') : Adds root above es s s' := by
  induction es generalizing s with
  | nil =>
    cases done
    exact adds_nothing rfl
  | cons e es ih =>
    rw [List.map_cons, List.nodup_cons] at distinct
    rw [List.foldlM_cons] at done
    cases first : step s e with
    | error stop =>
      rw [first] at done
      cases done
    | ok middle =>
      rw [first] at done
      exact (each e (by simp) s middle first).cons start distinct.1
        (ih distinct.2 (fun d member => each d (by simp [member])) done)

theorem folder_walk_adds (tree : t.top.Proper) (start : root ≠ []) (depth : Nat) :
    ∀ {above es s s'}, (∀ d ∈ above, IsName d) → (Node.folder es).Proper →
      w.folder t ignore depth (pathOf root above) (relativeOf above) s es = .ok s' →
      Adds root above es s s' := by
  induction depth with
  | zero => exact fun _ _ done => nomatch done
  | succ depth ih =>
    intro above es s s' names proper done
    cases proper with
    | folder distinct named inside =>
      refine entries_add start distinct ?_ done
      rintro ⟨c, n⟩ member s s' taken
      have names' : ∀ d ∈ above ++ [c], IsName d := by
        simpa [or_imp, forall_and] using ⟨names, named _ member⟩
      cases n with
      | link target =>
        cases taken
        exact adds_nothing rfl
      | file text => exact file_adds start names' taken
      | folder n =>
        refine folder_adds start names' (fun es s s' listed walked => ?_) taken
        exact ih names' (tree.of_node (FileTree.list_eq_ok.mp listed)) walked

end Adds

section Sources

variable {w : Walk} {t : FileTree} {cancelled : Bool} {root : Bytes} {files : List Source}

/-- Paths below a root are clean, so sources that differ by path differ by their cleaned one. -/
theorem cleaned_distinct {es : List (Bytes × Node)} (start : root ≠ [])
    (apart : (files.map Source.path).Nodup) (under : ∀ f ∈ files, Under root [] es f) :
    (files.map cleaned).Nodup := by
  have clean : ∀ f ∈ files, cleaned f = f.path := by
    intro f member
    obtain ⟨c, -, rest, named, path⟩ := under f member
    obtain ⟨names, last, split⟩ := (List.eq_nil_or_concat ([] ++ c :: rest)).resolve_left (by simp)
    rw [split, List.concat_eq_append] at named path
    rw [cleaned, path]
    exact clean_pathOf start (fun d at_d => named d (by simp [at_d])) (named last (by simp))
  rwa [List.map_congr_left clean]

theorem fromFolder_distinct {es : List (Bytes × Node)} (tree : t.top.Proper) (start : root ≠ [])
    (proper : (Node.folder es).Proper)
    (done : (w.fromFolder t cancelled root es).1 = .ok files) : (files.map cleaned).Nodup := by
  unfold fromFolder at done
  split at done
  · cases done
  dsimp only at done
  split at done
  · cases done
  split at done
  · cases done
    exact .nil
  split at done
  · cases done
  rename_i s' walked
  cases done
  obtain ⟨added, files, apart, under⟩ : Adds root [] es _ s' :=
    folder_walk_adds tree start _ (by simp) proper walked
  have whole : s'.files = added := by
    rw [files]
    split <;> exact List.append_nil added
  have listed := (List.mergeSort_perm added.reverse byRelative).trans (List.reverse_perm added)
  rw [whole]
  refine cleaned_distinct start ?_ fun f member => under f (listed.mem_iff.mp member)
  exact (listed.map Source.path).nodup_iff.mpr apart

theorem sources_distinct (tree : t.top.Proper) (cancelled : Bool) (root : Bytes) :
    ((w.sources t cancelled root).map cleaned).Nodup := by
  rcases w.succeeds_or_fails t cancelled root with done | ⟨fault, fails⟩
  · rw [Succeeds, run, FileTree.stat] at done
    cases found : t.node true root with
    | error cause =>
      rw [found] at done
      cases done
    | ok n =>
      rw [found] at done
      cases n with
      | folder es =>
        have start : root ≠ [] := (FileTree.node_eq_ok.mp found).1.some
        exact fromFolder_distinct tree start (tree.of_node found) done
      | file text =>
        dsimp only at done
        split at done
        · cases done
        · rename_i s' taken
          rw [← Except.ok.inj done]
          rcases takeFile_adds taken with none | ⟨text, one⟩
          · simp [none]
          · simp [one]
      | link target =>
        rw [← Except.ok.inj done]
        exact .nil
  · rw [sources, fails]
    exact .nil

end Sources

/-- The sources of the walks from several roots, each path once: the first source that comes up
with a path, in the order in which the paths come up. -/
structure Union (w : Walk) (t : FileTree) (cancelled : Bool) (roots : List Bytes)
    (files : List Source) : Prop where
  distinct : (files.map cleaned).Nodup
  once : ∀ root ∈ roots, ∀ f ∈ w.sources t cancelled root, ∃! g, g ∈ files ∧ cleaned g = cleaned f
  first : ∀ g, g ∈ files ↔ ∃ before root after, roots = before ++ root :: after ∧
    (∀ r ∈ before, ∀ f ∈ w.sources t cancelled r, cleaned f ≠ cleaned g) ∧
    (w.sources t cancelled root).find? (cleaned · == cleaned g) = some g
  ordered : files.Pairwise fun f g =>
    ((roots.flatMap (w.sources t cancelled)).map cleaned).idxOf (cleaned f) <
      ((roots.flatMap (w.sources t cancelled)).map cleaned).idxOf (cleaned g)

theorem distinct_union (w : Walk) (t : FileTree) (cancelled : Bool) (roots : List Bytes) :
    w.Union t cancelled roots (distinct [] (roots.flatMap (w.sources t cancelled))) := by
  have ordered := distinct_ordered [] (roots.flatMap (w.sources t cancelled))
  have apart : ((distinct [] (roots.flatMap (w.sources t cancelled))).map cleaned).Nodup := by
    refine List.pairwise_map.mpr (ordered.imp fun {f g} less same => ?_)
    rw [same] at less
    exact Nat.lt_irrefl _ less
  refine ⟨apart, ?_, ?_, ordered⟩
  · intro root member f at_f
    have path : cleaned f ∈ (roots.flatMap (w.sources t cancelled)).map cleaned :=
      List.mem_map_of_mem (List.mem_flatMap.mpr ⟨root, member, at_f⟩)
    obtain ⟨g, at_g, same⟩ := List.mem_map.mp (mem_paths_distinct.mpr ⟨path, List.not_mem_nil⟩)
    refine ⟨g, ⟨at_g, same⟩, fun h both => ?_⟩
    exact List.inj_on_of_nodup_map apart both.1 at_g (both.2.trans same.symm)
  · intro g
    rw [mem_distinct, List.find?_flatMap, List.findSome?_eq_some_iff]
    simp only [List.not_mem_nil, not_false_eq_true, true_and, List.find?_eq_none, beq_iff_eq]
    refine exists_congr fun before => exists_congr fun root => exists_congr fun after =>
      and_congr_right fun _ => ?_
    exact and_comm

/-- Roots that are there already add nothing, in any order. -/
theorem distinct_again {w : Walk} {t : FileTree} {cancelled : Bool} {roots more : List Bytes}
    (known : more ⊆ roots) :
    distinct [] ((roots ++ more).flatMap (w.sources t cancelled)) =
      distinct [] (roots.flatMap (w.sources t cancelled)) := by
  have nothing : distinct ((roots.flatMap (w.sources t cancelled)).map cleaned ++ [])
      (more.flatMap (w.sources t cancelled)) = [] := by
    refine distinct_of_seen fun f member => ?_
    obtain ⟨root, at_root, at_f⟩ := List.mem_flatMap.mp member
    rw [List.append_nil]
    exact List.mem_map_of_mem (List.mem_flatMap.mpr ⟨root, known at_root, at_f⟩)
  rw [List.flatMap_append, distinct_append, nothing, List.append_nil]

end Walk

/-- The walks from several roots are put together to their union, if all of them succeed. Roots
given again change nothing, and with the roots in another order the same paths are found. If
some walk fails, all that is returned is the fault of the first one that does. In a proper tree
no single walk comes to a path twice. -/
theorem walks_unite (w : Walk) (t : FileTree) (cancelled : Bool) (roots : List Bytes) :
    ((∀ root ∈ roots, w.Succeeds t cancelled root) →
      ∃ files, (w.runAll t cancelled roots).1 = .ok files ∧ w.Union t cancelled roots files ∧
        (∀ more ⊆ roots, (w.runAll t cancelled (roots ++ more)).1 = .ok files) ∧
        ∀ roots', roots'.Perm roots → ∃ files', (w.runAll t cancelled roots').1 = .ok files' ∧
          ∀ p, p ∈ files'.map Walk.cleaned ↔ p ∈ files.map Walk.cleaned) ∧
    ((¬ ∀ root ∈ roots, w.Succeeds t cancelled root) →
      ∃ before root after fault, roots = before ++ root :: after ∧
        (∀ r ∈ before, w.Succeeds t cancelled r) ∧ (w.run t cancelled root).1 = .error fault ∧
        (w.runAll t cancelled roots).1 = .error fault) ∧
    (t.top.Proper → ∀ root, ((w.sources t cancelled root).map Walk.cleaned).Nodup) := by
  refine ⟨fun all => ?_, fun some => ?_, fun tree => Walk.sources_distinct tree cancelled⟩
  · refine ⟨_, Walk.runAll_succeeds all, w.distinct_union t cancelled roots, ?_, ?_⟩
    · intro more known
      have all' : ∀ root ∈ roots ++ more, w.Succeeds t cancelled root := fun root member =>
        all root ((List.mem_append.mp member).elim id fun again => known again)
      rw [Walk.runAll_succeeds all', Walk.distinct_again known]
    · intro roots' perm
      refine ⟨_, Walk.runAll_succeeds fun root member => all root (perm.mem_iff.mp member), ?_⟩
      intro p
      have same := ((perm.flatMap_right (w.sources t cancelled)).map Walk.cleaned).mem_iff (a := p)
      rw [Walk.mem_paths_distinct, Walk.mem_paths_distinct, same]
  · obtain ⟨before, root, after, fault, rfl, done, fails⟩ := Walk.exists_first_failing some
    refine ⟨before, root, after, fault, rfl, done, fails, ?_⟩
    rw [Walk.runAll_eq, Walk.gather_fails after done fails]
    rfl

def overlapTree : FileTree :=
  ⟨.folder
    [(Bytes.of "a", .folder [(Bytes.of "one.js", .file (Bytes.of "1\n"))]),
     (Bytes.of "b", .folder [(Bytes.of "two.js", .file (Bytes.of "2\n"))])], []⟩

def overlapRoots : List Bytes := [Bytes.of "./b/", Bytes.of ".", Bytes.of "a/one.js"]

/-- The file in `b` is reached from its own folder first and keeps the path relative to it. -/
theorem overlapTree_united :
    (∀ root ∈ overlapRoots, strayWalk.Succeeds overlapTree false root) ∧
    ∃ files, (strayWalk.runAll overlapTree false overlapRoots).1 = .ok files ∧
      strayWalk.Union overlapTree false overlapRoots files ∧
      files = [⟨Bytes.of "b/two.js", Bytes.of "two.js", Bytes.of "2\n"⟩,
        ⟨Bytes.of "a/one.js", Bytes.of "a/one.js", Bytes.of "1\n"⟩] := by
  have first : (strayWalk.run overlapTree false (Bytes.of "./b/")).1 =
      .ok [⟨Bytes.of "b/two.js", Bytes.of "two.js", Bytes.of "2\n"⟩] := by decide +kernel
  have top : overlapTree.node false (Bytes.of ".") = .ok overlapTree.top := by decide +kernel
  have second : (strayWalk.run overlapTree false (Bytes.of ".")).1 =
      .ok [⟨Bytes.of "a/one.js", Bytes.of "a/one.js", Bytes.of "1\n"⟩,
        ⟨Bytes.of "b/two.js", Bytes.of "b/two.js", Bytes.of "2\n"⟩] :=
    Walk.run_files _ [⟨Bytes.of "b/two.js", Bytes.of "b/two.js", Bytes.of "2\n"⟩,
      ⟨Bytes.of "a/one.js", Bytes.of "a/one.js", Bytes.of "1\n"⟩] top rfl rfl (by decide +kernel)
      (by decide +kernel) (by decide +kernel)
  have third : (strayWalk.run overlapTree false (Bytes.of "a/one.js")).1 =
      .ok [⟨Bytes.of "a/one.js", Bytes.of "a/one.js", Bytes.of "1\n"⟩] := by decide +kernel
  have all : ∀ root ∈ overlapRoots, strayWalk.Succeeds overlapTree false root := by
    simp only [overlapRoots, List.forall_mem_cons, List.not_mem_nil, false_implies, implies_true,
      and_true]
    exact ⟨Walk.succeeds_of_run first, Walk.succeeds_of_run second, Walk.succeeds_of_run third⟩
  obtain ⟨files, done, union, -⟩ := (walks_unite strayWalk overlapTree false overlapRoots).1 all
  refine ⟨all, files, done, union, ?_⟩
  have sources : overlapRoots.flatMap (strayWalk.sources overlapTree false) =
      [⟨Bytes.of "b/two.js", Bytes.of "two.js", Bytes.of "2\n"⟩,
        ⟨Bytes.of "a/one.js", Bytes.of "a/one.js", Bytes.of "1\n"⟩,
        ⟨Bytes.of "b/two.js", Bytes.of "b/two.js", Bytes.of "2\n"⟩,
        ⟨Bytes.of "a/one.js", Bytes.of "a/one.js", Bytes.of "1\n"⟩] := by
    simp only [overlapRoots, List.flatMap_cons, List.flatMap_nil, Walk.sources_of_run first,
      Walk.sources_of_run second, Walk.sources_of_run third, List.cons_append, List.nil_append]
  rw [Walk.runAll_succeeds all, sources] at done
  rw [← Except.ok.inj done]
  decide +kernel

end SpanGauge
