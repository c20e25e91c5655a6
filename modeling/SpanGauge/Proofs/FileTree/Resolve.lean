import SpanGauge.FileTree
import SpanGauge.Proofs.FileTree.Parts

/-! Where paths lead. Following a path is told step by step: what a part can do, and where
it leads. From this it follows that parts without meaning can be left out, and that a path
with one more name leads to the entry of that name in the folder of the cleaned path. -/
namespace SpanGauge

namespace Node

theorem descend?_append (n : Node) (cs ds : List Bytes) :
    n.descend? (cs ++ ds) = (n.descend? cs).bind fun m => m.descend? ds := by
  induction cs generalizing n with
  | nil => simp [descend?]
  | cons c cs ih =>
    cases h : n.child? c with
    | none => simp [descend?, h]
    | some m => simp [descend?, h, ih]

theorem descend?_single (n : Node) (c : Bytes) : n.descend? [c] = n.child? c := by
  cases h : n.child? c with
  | none => simp [descend?, h]
  | some m => simp [descend?, h]

end Node

namespace FileTree

open SpanGauge.Path (tells dotdot)

structure Names (c : Bytes) : Prop where
  tells : tells c = true
  not_dotdot : c ≠ dotdot
  short : c.length ≤ 255

theorem tells_eq_false {c : Bytes} :
    tells c = false ↔ (c.isEmpty || c == Path.dot) = true := by
  rw [tells, Bool.not_eq_false']

theorem Names.branches {c : Bytes} (names : Names c) :
    (c.isEmpty || c == Path.dot) = false ∧ (c == dotdot) = false ∧ ¬ 255 < c.length := by
  have told : ¬ (c.isEmpty || c == Path.dot) = true :=
    mt tells_eq_false.mpr (by simp [names.tells])
  exact ⟨Bool.not_eq_true _ ▸ told, beq_eq_false_iff_ne.mpr names.not_dotdot,
    Nat.not_lt.mpr names.short⟩

/-- A folder lies at a place, which is given by its names from the top, the latest first. -/
def Folder (top : Node) (here : List Bytes) (es : List (Bytes × Node)) : Prop :=
  top.descend? here.reverse = some (.folder es)

theorem Folder.descends {top : Node} {here : List Bytes} {es : List (Bytes × Node)}
    (folder : Folder top here es) : top.descend? here.reverse = some (.folder es) := folder

theorem Folder.child {top n : Node} {here : List Bytes} {es : List (Bytes × Node)} {c : Bytes}
    (folder : Folder top here es) (child : (Node.folder es).child? c = some n) :
    top.descend? (c :: here).reverse = some n := by
  rw [List.reverse_cons, Node.descend?_append, folder.descends, Option.bind_some,
    Node.descend?_single]
  exact child

/-- The parts of a path lead from a place to a place, over at most so many links. The last
part is not followed when it is a link and `follow` is not set. -/
inductive Leads (top : Node) (follow : Bool) : Nat → List Bytes → List Bytes → List Bytes → Prop
  | done {links here} : Leads top follow links here [] here
  | silent {links here es c cs r} (folder : Folder top here es) (nothing : tells c = false)
      (rest : Leads top follow links here cs r) : Leads top follow links here (c :: cs) r
  | up {links here es cs r} (folder : Folder top here es)
      (rest : Leads top follow links here.tail cs r) :
      Leads top follow links here (dotdot :: cs) r
  | down {links here es c n cs r} (folder : Folder top here es) (names : Names c)
      (child : (Node.folder es).child? c = some n) (real : ∀ target, n ≠ .link target)
      (rest : Leads top follow links (c :: here) cs r) : Leads top follow links here (c :: cs) r
  | link {links here es c target cs r} (folder : Folder top here es) (names : Names c)
      (child : (Node.folder es).child? c = some (.link target)) (goes : cs ≠ [] ∨ follow = true)
      (rest : Leads top follow links (if Path.isRooted target then [] else here)
        (Path.parts target ++ cs) r) : Leads top follow (links + 1) here (c :: cs) r
  | stop {links here es c target} (folder : Folder top here es) (names : Names c)
      (child : (Node.folder es).child? c = some (.link target)) (stays : follow = false) :
      Leads top follow links here [c] (c :: here)

section Walk

variable {top : Node} {follow : Bool} {links : Nat} {here : List Bytes}

theorem walkTo_nil : walkTo top follow links here [] = .ok here := by
  cases links <;> rfl

/- One component. A link is followed only if one may still be followed. -/
theorem walkTo_cons {c : Bytes} {cs : List Bytes} : walkTo top follow links here (c :: cs) =
    match top.descend? here.reverse with
    | none => .error .missing
    | some n =>
      if !n.isFolder then .error .notFolder
      else if c.isEmpty || c == Path.dot then walkTo top follow links here cs
      else if c == Path.dotdot then walkTo top follow links here.tail cs
      else if 255 < c.length then .error .nameTooLong
      else
        match n.child? c with
        | none => .error .missing
        | some (.link target) =>
          if cs.isEmpty && !follow then .ok (c :: here)
          else if links = 0 then .error .linkLoop
          else
            walkTo top follow (links - 1) (if Path.isRooted target then [] else here)
              (Bytes.splitAt Path.slash target ++ cs)
        | some _ => walkTo top follow links (c :: here) cs := by
  cases links with
  | zero => rfl
  | succ links => rfl

end Walk

theorem folder_of_walkTo {top : Node} {follow : Bool} {links : Nat} {here cs r : List Bytes}
    {c : Bytes} (found : walkTo top follow links here (c :: cs) = .ok r) :
    ∃ es, Folder top here es := by
  rw [walkTo_cons] at found
  split at found
  · cases found
  · rename_i n at_here
    cases n with
    | folder es => exact ⟨es, at_here⟩
    | file _ => cases found
    | link _ => cases found

theorem leads_of_walkTo {top : Node} {follow : Bool} {links : Nat} {here ps r : List Bytes}
    (found : walkTo top follow links here ps = .ok r) : Leads top follow links here ps r := by
  match ps with
  | [] =>
    rw [walkTo_nil] at found
    cases found
    exact .done
  | c :: cs =>
    obtain ⟨es, folder⟩ := folder_of_walkTo found
    simp only [walkTo_cons, folder.descends, Node.isFolder, Bool.not_true, Bool.false_eq_true, if_false]
      at found
    split at found
    · rename_i nothing
      exact .silent folder (tells_eq_false.mpr nothing) (leads_of_walkTo found)
    rename_i something
    split at found
    · rename_i up
      cases beq_iff_eq.mp up
      exact .up folder (leads_of_walkTo found)
    rename_i other
    split at found
    · cases found
    rename_i short
    have told : tells c = true := Bool.not_eq_false _ ▸ mt tells_eq_false.mp something
    have names : Names c := ⟨told, by simpa using other, Nat.not_lt.mp short⟩
    split at found
    · cases found
    · rename_i target child
      split at found
      · rename_i stays
        simp only [Bool.and_eq_true, List.isEmpty_iff, Bool.not_eq_true'] at stays
        obtain ⟨rfl, stays⟩ := stays
        cases found
        exact .stop folder names child stays
      rename_i goes
      split at found
      · cases found
      · rename_i left
        obtain ⟨links, rfl⟩ := Nat.exists_eq_succ_of_ne_zero left
        have goes : cs ≠ [] ∨ follow = true := by
          simpa [Decidable.imp_iff_not_or] using goes
        exact .link folder names child goes (leads_of_walkTo found)
    · rename_i n real child
      exact .down folder names child (fun target same => real target same) (leads_of_walkTo found)
termination_by (links, ps.length)

section Leads

variable {top : Node} {follow : Bool} {links : Nat} {here ps qs r : List Bytes}

section Step

variable {c : Bytes} {cs : List Bytes} {es : List (Bytes × Node)}

theorem walkTo_silent (folder : Folder top here es) (nothing : tells c = false) :
    walkTo top follow links here (c :: cs) = walkTo top follow links here cs := by
  simp only [walkTo_cons, folder.descends, Node.isFolder, Bool.not_true, Bool.false_eq_true, if_false,
    tells_eq_false.mp nothing, if_true]

theorem walkTo_up (folder : Folder top here es) :
    walkTo top follow links here (dotdot :: cs) = walkTo top follow links here.tail cs := by
  have something : (dotdot.isEmpty || dotdot == Path.dot) = false := by decide +kernel
  simp only [walkTo_cons, folder.descends, Node.isFolder, Bool.not_true, Bool.false_eq_true, if_false,
    something, beq_self_eq_true, if_true]

theorem walkTo_down {n : Node} (folder : Folder top here es) (names : Names c)
    (child : (Node.folder es).child? c = some n) (real : ∀ target, n ≠ .link target) :
    walkTo top follow links here (c :: cs) = walkTo top follow links (c :: here) cs := by
  obtain ⟨something, other, short⟩ := names.branches
  simp only [walkTo_cons, folder.descends, Node.isFolder, Bool.not_true, Bool.false_eq_true, if_false,
    something, other, short, child]

theorem walkTo_link {target : Bytes} (folder : Folder top here es) (names : Names c)
    (child : (Node.folder es).child? c = some (.link target)) (goes : cs ≠ [] ∨ follow = true) :
    walkTo top follow (links + 1) here (c :: cs) =
      walkTo top follow links (if Path.isRooted target then [] else here)
        (Path.parts target ++ cs) := by
  obtain ⟨something, other, short⟩ := names.branches
  have goes : (cs.isEmpty && !follow) = false := by
    rcases goes with more | follows
    · simp [more]
    · simp [follows]
  simp only [walkTo_cons, folder.descends, Node.isFolder, Bool.not_true, Bool.false_eq_true,
    something, other, short, child, goes, Nat.add_one_ne_zero, if_false, Nat.add_sub_cancel,
    Path.parts]

end Step

theorem walkTo_of_leads (h : Leads top follow links here ps r) :
    walkTo top follow links here ps = .ok r := by
  induction h with
  | done => rw [walkTo_nil]
  | silent folder nothing _ ih => rw [walkTo_silent folder nothing, ih]
  | up folder _ ih => rw [walkTo_up folder, ih]
  | down folder names child real _ ih => rw [walkTo_down folder names child real, ih]
  | link folder names child goes _ ih => rw [walkTo_link folder names child goes, ih]
  | stop folder names child stays =>
    obtain ⟨something, other, short⟩ := names.branches
    simp only [walkTo_cons, folder.descends, Node.isFolder, Bool.not_true, Bool.false_eq_true, if_false,
      something, other, short, child, stays, List.isEmpty_nil, Bool.not_false, Bool.and_self,
      if_true]

namespace Leads

theorem unique {r' : List Bytes} (h : Leads top follow links here ps r)
    (h' : Leads top follow links here ps r') : r = r' := by
  have same := (walkTo_of_leads h).symm.trans (walkTo_of_leads h')
  exact Except.ok.inj same

theorem starts (h : Leads top follow links here ps r) (some : ps ≠ []) :
    ∃ es, Folder top here es := by
  cases h with
  | done => exact absurd rfl some
  | silent folder | up folder | down folder | link folder | stop folder => exact ⟨_, folder⟩

theorem followed (h : Leads top false links here ps r)
    (real : ∀ target, top.descend? r.reverse ≠ some (.link target)) :
    Leads top true links here ps r := by
  induction h with
  | done => exact .done
  | silent folder nothing _ ih => exact .silent folder nothing (ih real)
  | up folder _ ih => exact .up folder (ih real)
  | down folder names child plain _ ih => exact .down folder names child plain (ih real)
  | link folder names child _ _ ih => exact .link folder names child (.inr rfl) (ih real)
  | @stop _ _ _ _ target folder names child _ =>
    exact absurd (folder.child child) (real target)

theorem split (h : Leads top true links here (ps ++ qs) r) :
    ∃ mid left, Leads top true links here ps mid ∧ Leads top true left mid qs r := by
  generalize whole : ps ++ qs = all at h
  induction h generalizing ps with
  | @done links here =>
    obtain ⟨rfl, rfl⟩ := List.append_eq_nil_iff.mp whole
    exact ⟨here, links, .done, .done⟩
  | @silent links here _ c _ _ folder nothing rest ih =>
    rcases List.append_eq_cons_iff.mp whole with ⟨rfl, rfl⟩ | ⟨ps, rfl, rfl⟩
    · exact ⟨here, links, .done, .silent folder nothing rest⟩
    · obtain ⟨mid, left, first, second⟩ := ih rfl
      exact ⟨mid, left, .silent folder nothing first, second⟩
  | @up links here _ _ _ folder rest ih =>
    rcases List.append_eq_cons_iff.mp whole with ⟨rfl, rfl⟩ | ⟨ps, rfl, rfl⟩
    · exact ⟨here, links, .done, .up folder rest⟩
    · obtain ⟨mid, left, first, second⟩ := ih rfl
      exact ⟨mid, left, .up folder first, second⟩
  | @down links here _ _ _ _ _ folder names child real rest ih =>
    rcases List.append_eq_cons_iff.mp whole with ⟨rfl, rfl⟩ | ⟨ps, rfl, rfl⟩
    · exact ⟨here, links, .done, .down folder names child real rest⟩
    · obtain ⟨mid, left, first, second⟩ := ih rfl
      exact ⟨mid, left, .down folder names child real first, second⟩
  | @link links here _ _ target _ _ folder names child goes rest ih =>
    rcases List.append_eq_cons_iff.mp whole with ⟨rfl, rfl⟩ | ⟨ps, rfl, rfl⟩
    · exact ⟨here, links + 1, .done, .link folder names child goes rest⟩
    · obtain ⟨mid, left, first, second⟩ := ih (List.append_assoc ..)
      exact ⟨mid, left, .link folder names child (.inr rfl) first, second⟩
  | stop _ _ _ stays => cases stays

theorem into_child {c : Bytes} {n : Node} {es : List (Bytes × Node)}
    (h : Leads top follow links here [c] r) (name : Path.IsName c) (folder : Folder top here es)
    (child : (Node.folder es).child? c = some n) (real : ∀ target, n ≠ .link target) :
    r = c :: here := by
  cases h with
  | silent _ nothing _ => exact absurd name.tells (by simp [nothing])
  | up => exact absurd rfl name.not_dotdot
  | down _ _ _ _ rest =>
    cases rest
    rfl
  | link folder' _ child' =>
    cases folder.symm.trans folder'
    exact absurd (Option.some.inj (child.symm.trans child')) (real _)
  | stop => rfl

theorem told_behind (h : Leads top true links here (ps ++ qs) r) :
    Leads top true links here (ps ++ qs.filter tells) r := by
  -- a link puts the parts of its target in front, which must stay as they are
  generalize whole : ps ++ qs = all at h
  induction h generalizing ps qs with
  | done =>
    obtain ⟨rfl, rfl⟩ := List.append_eq_nil_iff.mp whole
    exact .done
  | silent folder nothing _ ih =>
    rcases List.append_eq_cons_iff.mp whole with ⟨rfl, rfl⟩ | ⟨ps, rfl, rfl⟩
    · rw [List.filter_cons_of_neg (by simp [nothing])]
      exact ih (List.nil_append _)
    · exact .silent folder nothing (ih rfl)
  | up folder _ ih =>
    rcases List.append_eq_cons_iff.mp whole with ⟨rfl, rfl⟩ | ⟨ps, rfl, rfl⟩
    · rw [List.filter_cons_of_pos (by decide +kernel)]
      exact .up folder (ih (List.nil_append _))
    · exact .up folder (ih rfl)
  | down folder names child real _ ih =>
    rcases List.append_eq_cons_iff.mp whole with ⟨rfl, rfl⟩ | ⟨ps, rfl, rfl⟩
    · rw [List.filter_cons_of_pos names.tells]
      exact .down folder names child real (ih (List.nil_append _))
    · exact .down folder names child real (ih rfl)
  | link folder names child _ _ ih =>
    rcases List.append_eq_cons_iff.mp whole with ⟨rfl, rfl⟩ | ⟨ps, rfl, rfl⟩
    · rw [List.filter_cons_of_pos names.tells]
      exact .link folder names child (.inr rfl) (ih rfl)
    · have rest := ih (List.append_assoc (Path.parts _) ps qs)
      rw [List.append_assoc] at rest
      exact .link folder names child (.inr rfl) rest
  | stop _ _ _ stays => cases stays

theorem told (h : Leads top true links here ps r) :
    Leads top true links here (ps.filter tells) r :=
  told_behind (show Leads top true links here ([] ++ ps) r from h)

theorem behind {front : List Bytes} {es : List (Bytes × Node)} (folder : Folder top here es)
    (nothing : ∀ c ∈ front, tells c = false) (h : Leads top follow links here ps r) :
    Leads top follow links here (front ++ ps) r := by
  induction front with
  | nil => exact h
  | cons c front ih =>
    exact .silent folder (nothing c (by simp)) (ih fun d member => nothing d (by simp [member]))

end Leads

end Leads

structure Sound (p : Bytes) : Prop where
  some : p ≠ []
  no_zero : (0 : UInt8) ∉ p
  short : p.length ≤ longestPath

theorem Sound.of_join {p c : Bytes} (h : Sound (Path.join [p, c])) (some : p ≠ [])
    (name : Path.IsName c) : Sound (Path.clean p) := by
  obtain ⟨shorter, within⟩ := Path.clean_within_join some name
  refine ⟨Path.clean_ne_nil p, fun zero => ?_, Nat.le_trans shorter h.short⟩
  rcases within 0 zero with zero | zero
  · exact h.no_zero zero
  · exact absurd zero (by decide +kernel)

section Node

variable {t : FileTree} {follow : Bool} {p c : Bytes} {n m : Node} {es : List (Bytes × Node)}

def origin (t : FileTree) (rooted : Bool) : List Bytes := if rooted then [] else t.start.reverse

def Reaches (t : FileTree) (follow rooted : Bool) (ps : List Bytes) (n : Node) : Prop :=
  ∃ r, Leads t.top follow 40 (t.origin rooted) ps r ∧ t.top.descend? r.reverse = some n

theorem resolve_of_sound (sound : Sound p) :
    t.resolve follow p = walkTo t.top follow 40 (t.origin (Path.isRooted p)) (Path.parts p) := by
  have some : p.isEmpty = false := by simpa using sound.some
  have no_zero : p.has 0 = false := Bytes.has_eq_false.mpr sound.no_zero
  simp only [resolve, some, no_zero, Nat.not_lt.mpr sound.short, Bool.false_eq_true, if_false]
  rfl

theorem resolve_eq_ok {r : List Bytes} : t.resolve follow p = .ok r ↔
    Sound p ∧ Leads t.top follow 40 (t.origin (Path.isRooted p)) (Path.parts p) r := by
  constructor
  · intro found
    have sound : Sound p := by
      unfold resolve at found
      split at found
      · cases found
      rename_i some
      split at found
      · cases found
      rename_i no_zero
      split at found
      · cases found
      rename_i short
      exact ⟨by simpa using some, Bytes.has_eq_false.mp (by simpa using no_zero),
        Nat.not_lt.mp short⟩
    rw [resolve_of_sound sound] at found
    exact ⟨sound, leads_of_walkTo found⟩
  · rintro ⟨sound, leads⟩
    rw [resolve_of_sound sound, walkTo_of_leads leads]

theorem node_eq_ok : t.node follow p = .ok n ↔
    Sound p ∧ t.Reaches follow (Path.isRooted p) (Path.parts p) n := by
  constructor
  · intro found
    unfold node at found
    split at found
    · cases found
    · rename_i r resolved
      obtain ⟨sound, leads⟩ := resolve_eq_ok.mp resolved
      split at found
      · rename_i m at_r
        cases found
        exact ⟨sound, r, leads, at_r⟩
      · cases found
  · rintro ⟨sound, r, leads, at_r⟩
    simp only [node, resolve_eq_ok.mpr ⟨sound, leads⟩, at_r]

theorem Reaches.unique {rooted : Bool} {ps : List Bytes} (h : t.Reaches follow rooted ps n)
    (h' : t.Reaches follow rooted ps m) : n = m := by
  obtain ⟨r, leads, at_r⟩ := h
  obtain ⟨r', leads', at_r'⟩ := h'
  cases leads.unique leads'
  exact Option.some.inj (at_r.symm.trans at_r')

theorem Reaches.told {rooted : Bool} {ps : List Bytes} (h : t.Reaches true rooted ps n) :
    t.Reaches true rooted (ps.filter tells) n := by
  obtain ⟨r, leads, at_r⟩ := h
  exact ⟨r, leads.told, at_r⟩

theorem node_followed (found : t.node false p = .ok n) (real : ∀ target, n ≠ .link target) :
    t.node true p = .ok n := by
  obtain ⟨sound, r, leads, at_r⟩ := node_eq_ok.mp found
  refine node_eq_ok.mpr ⟨sound, r, leads.followed fun target at_link => ?_, at_r⟩
  exact real target (Option.some.inj (at_r.symm.trans at_link))

/-- Without double dots, cleaning a path does not change where it leads. -/
theorem node_clean (plain : dotdot ∉ Path.parts p) (found : t.node true p = .ok n)
    (cleaned : t.node true (Path.clean p) = .ok m) : m = n := by
  have reached := (node_eq_ok.mp found).2.told
  have reached_clean := (node_eq_ok.mp cleaned).2.told
  rw [Path.tells_parts_clean, Path.isRooted_clean, Path.kept_of_plain plain] at reached_clean
  exact reached_clean.unique reached

/-- A path with one more name leads to the entry of that name in the folder of the cleaned
path. -/
theorem node_child (start : p ≠ []) (name : Path.IsName c)
    (lone : ∀ m, t.node true (Path.clean p) = .ok m → m = .folder es)
    (child : (Node.folder es).child? c = some n) (real : ∀ target, n ≠ .link target)
    (found : t.node true (Path.join [p, c]) = .ok m) : m = n := by
  obtain ⟨sound, reached⟩ := node_eq_ok.mp found
  obtain ⟨r, leads, at_r⟩ := reached.told
  rw [Path.tells_parts_join start name, Path.isRooted_join start name] at leads
  -- the cleaned path leads to the folder in which the last name is looked up
  obtain ⟨mid, left, first, last⟩ := leads.split
  obtain ⟨es', folder⟩ := last.starts (by simp)
  obtain ⟨_, at_start⟩ := leads.starts (by simp)
  obtain ⟨front, nothing, parts⟩ := Path.parts_clean p
  have cleaned : t.node true (Path.clean p) = .ok (.folder es') := by
    refine node_eq_ok.mpr ⟨sound.of_join start name, mid, ?_, folder⟩
    rw [parts, Path.isRooted_clean]
    exact first.behind at_start nothing
  cases lone _ cleaned
  cases last.into_child name folder child real
  exact Option.some.inj (at_r.symm.trans (folder.child child))

theorem read_eq_ok {text : Bytes} :
    t.read p = .ok text ↔ t.node true p = .ok (.file text) := by
  unfold FileTree.read
  split <;> simp_all

theorem list_eq_ok : t.list p = .ok es ↔ t.node true p = .ok (.folder es) := by
  unfold FileTree.list
  split <;> simp_all

end Node

end FileTree

end SpanGauge
