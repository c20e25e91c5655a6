import SpanGauge.Path

/-! File trees: folders, files and symbolic links, and how a path is resolved. -/
namespace SpanGauge

/-- An entry of a file tree. The entries of a folder are in byte order of their names. -/
inductive Node where
  | file (text : Bytes)
  | folder (entries : List (Bytes × Node))
  | link (target : Bytes)

namespace Node

mutual

def decEq : (n m : Node) → Decidable (n = m)
  | .file s, .file t => decidable_of_iff (s = t) (by rw [file.injEq])
  | .folder es, .folder fs =>
    have := decEqEntries es fs
    decidable_of_iff (es = fs) (by rw [folder.injEq])
  | .link s, .link t => decidable_of_iff (s = t) (by rw [link.injEq])
  | .file _, .folder _ | .file _, .link _ | .folder _, .file _ | .folder _, .link _
  | .link _, .file _ | .link _, .folder _ => isFalse nofun

def decEqEntries : (es fs : List (Bytes × Node)) → Decidable (es = fs)
  | [], [] => isTrue rfl
  | (s, n) :: es, (t, m) :: fs =>
    have := decEq n m
    have := decEqEntries es fs
    decidable_of_iff (s = t ∧ n = m ∧ es = fs)
      (by rw [List.cons.injEq, Prod.mk.injEq, and_assoc])
  | [], _ :: _ | _ :: _, [] => isFalse nofun

end

instance : DecidableEq Node := decEq

def isFolder : Node → Bool
  | .folder _ => true
  | _ => false

def entries : Node → List (Bytes × Node)
  | .folder es => es
  | _ => []

def child? (n : Node) (name : Bytes) : Option Node :=
  (n.entries.find? fun e => e.1 == name).map (·.2)

def descend? : Node → List Bytes → Option Node
  | n, [] => some n
  | n, c :: cs =>
    match n.child? c with
    | some m => m.descend? cs
    | none => none

def insertEntry (name : Bytes) (n : Node) : List (Bytes × Node) → List (Bytes × Node)
  | [] => [(name, n)]
  | e :: es =>
    match Bytes.cmp name e.1 with
    | .lt => (name, n) :: e :: es
    | .eq => (name, n) :: es
    | .gt => e :: insertEntry name n es

/-- The tree with one more entry, folders on the way included. A folder that is
already there stays. -/
def insert (n : Node) : List Bytes → Node → Node
  | [], leaf =>
    match n, leaf with
    | .folder es, .folder [] => .folder es
    | _, _ => leaf
  | c :: cs, leaf =>
    .folder (insertEntry c (((n.child? c).getD (.folder [])).insert cs leaf) n.entries)

end Node

inductive FileTree.Cause where
  | missing
  | notFolder
  | isFolder
  | linkLoop
  | nameTooLong
  | badName
  deriving DecidableEq, Repr

def FileTree.Cause.message : FileTree.Cause → Bytes
  | .missing => Bytes.of "no such file or directory"
  | .notFolder => Bytes.of "not a directory"
  | .isFolder => Bytes.of "is a directory"
  | .linkLoop => Bytes.of "too many levels of symbolic links"
  | .nameTooLong => Bytes.of "file name too long"
  | .badName => Bytes.of "invalid argument"

structure FileTree.Refusal where
  action : String
  path : Bytes
  cause : FileTree.Cause
  deriving DecidableEq, Repr

def FileTree.Refusal.message (r : FileTree.Refusal) : Bytes :=
  Bytes.of r.action ++ [byte ' '] ++ r.path ++ Bytes.of ": " ++ r.cause.message

structure FileTree where
  top : Node
  start : List Bytes

namespace FileTree

/-- Follows the components of a path from a folder, given by its names from the top,
the latest first. The target of a symbolic link, and what comes after the link, is handed
over; the last component is followed only when `follow` is set or something comes after it. -/
def walkOn (top : Node) (follow : Bool)
    (enter : List Bytes → List Bytes → Except Cause (List Bytes)) :
    List Bytes → List Bytes → Except Cause (List Bytes)
  | here, [] => .ok here
  | here, c :: cs =>
    match top.descend? here.reverse with
    | none => .error .missing
    | some n =>
      if !n.isFolder then .error .notFolder
      else if c.isEmpty || c == Path.dot then walkOn top follow enter here cs
      else if c == Path.dotdot then walkOn top follow enter here.tail cs
      else if 255 < c.length then .error .nameTooLong
      else
        match n.child? c with
        | none => .error .missing
        | some (.link target) =>
          if cs.isEmpty && !follow then .ok (c :: here)
          else
            enter (if Path.isRooted target then [] else here)
              (Bytes.splitAt Path.slash target ++ cs)
        | some _ => walkOn top follow enter (c :: here) cs

/-- At most `links` symbolic links are followed. -/
def walkTo (top : Node) (follow : Bool) : Nat → List Bytes → List Bytes → Except Cause (List Bytes)
  | 0 => walkOn top follow fun _ _ => .error .linkLoop
  | links + 1 => walkOn top follow (walkTo top follow links)

def longestPath : Nat := 4095

def resolve (t : FileTree) (follow : Bool) (path : Bytes) : Except Cause (List Bytes) :=
  if path.isEmpty then .error .missing
  else if path.has 0 then .error .badName
  else if longestPath < path.length then .error .nameTooLong
  else
    walkTo t.top follow 40 (if Path.isRooted path then [] else t.start.reverse)
      (Bytes.splitAt Path.slash path)

def node (t : FileTree) (follow : Bool) (path : Bytes) : Except Cause Node :=
  match t.resolve follow path with
  | .error c => .error c
  | .ok names =>
    match t.top.descend? names.reverse with
    | some n => .ok n
    | none => .error .missing

def stat (t : FileTree) (path : Bytes) : Except Refusal Node :=
  match t.node true path with
  | .ok n => .ok n
  | .error c => .error ⟨"stat", path, c⟩

def read (t : FileTree) (path : Bytes) : Except Refusal Bytes :=
  match t.node true path with
  | .ok (.file text) => .ok text
  | .ok _ => .error ⟨"read", path, .isFolder⟩
  | .error c => .error ⟨"open", path, c⟩

def list (t : FileTree) (path : Bytes) : Except Refusal (List (Bytes × Node)) :=
  match t.node true path with
  | .ok (.folder es) => .ok es
  | .ok _ => .error ⟨"readdirent", path, .notFolder⟩
  | .error c => .error ⟨"open", path, c⟩

def add (t : FileTree) (path : Bytes) (n : Node) : FileTree :=
  { t with top := t.top.insert (t.start ++
      ((Bytes.splitAt Path.slash path).filter fun c => !c.isEmpty && c != Path.dot)) n }

def empty : FileTree :=
  let start := [Bytes.of "work", Bytes.of "tree"]
  ⟨(Node.folder []).insert start (.folder []), start⟩

end FileTree

end SpanGauge
