import SpanGauge.Text.Utf8

/-! Path globs. A star stands for any text without a slash, a question mark for one
character other than a slash, brackets for one character of a set, and a backslash
takes the next character as itself. A pattern that breaks these rules matches
nothing. -/
namespace SpanGauge

inductive Glob.Piece where
  | star
  | any
  | exact (b : UInt8)
  | set (negated : Bool) (ranges : List (Nat × Nat))
  deriving DecidableEq, Repr

/-- A glob: what stands before the first star, and what follows each star. -/
structure Glob where
  head : List Glob.Piece
  segments : List (List Glob.Piece)
  deriving DecidableEq, Repr

namespace Glob
open Text

/-- A possibly escaped character inside brackets. It is never the last of the pattern,
because the closing bracket is still to come. -/
def member? (s : Bytes) : Option (Nat × Bytes) :=
  let body : Option Bytes :=
    match s with
    | [] => none
    | b :: rest =>
      if b == byte '-' || b == byte ']' then none
      else if b == byte '\\' then some rest
      else some s
  match body with
  | none => none
  | some [] => none
  | some (b :: rest) =>
    let r := first b rest
    let after := rest.drop (r.bytes.length - 1)
    if r.broken || after.isEmpty then none else some (r.char.toNat, after)

def range? (s : Bytes) : Option ((Nat × Nat) × Bytes) :=
  match member? s with
  | none => none
  | some (lo, rest) =>
    if rest.head? == some (byte '-') then
      match member? rest.tail with
      | none => none
      | some (hi, rest') => some ((lo, hi), rest')
    else some ((lo, lo), rest)

/-- The members of a set up to its closing bracket; there is at least one. -/
def ranges? : Nat → Bytes → List (Nat × Nat) → Option (List (Nat × Nat) × Bytes)
  | 0, _, _ => none
  | fuel + 1, s, acc =>
    if s.head? == some (byte ']') && !acc.isEmpty then some (acc.reverse, s.tail)
    else
      match range? s with
      | none => none
      | some (r, rest) => ranges? fuel rest (r :: acc)

def pieces? : Nat → Bytes → Option (List Piece)
  | 0, _ => none
  | _ + 1, [] => some []
  | fuel + 1, b :: rest =>
    if b == byte '*' then (pieces? fuel rest).map (.star :: ·)
    else if b == byte '?' then (pieces? fuel rest).map (.any :: ·)
    else if b == byte '\\' then
      match rest with
      | [] => none
      | c :: rest' => (pieces? fuel rest').map (.exact c :: ·)
    else if b == byte '[' then
      let negated := rest.head? == some (byte '^')
      let body := if negated then rest.tail else rest
      match ranges? (body.length + 1) body [] with
      | none => none
      | some (rs, rest') => (pieces? fuel rest').map (.set negated rs :: ·)
    else (pieces? fuel rest).map (.exact b :: ·)

/-- Pieces cut at the stars; several stars in a row are one. -/
def segmentsOf : List Piece → List Piece → List (List Piece) → List (List Piece)
  | [], cur, acc => (cur.reverse :: acc).reverse
  | .star :: ps, cur, acc =>
    if cur.isEmpty && !acc.isEmpty then segmentsOf ps [] acc
    else segmentsOf ps [] (cur.reverse :: acc)
  | p :: ps, cur, acc => segmentsOf ps (p :: cur) acc

def parse? (pattern : Bytes) : Option Glob :=
  match pieces? (pattern.length + 1) pattern with
  | none => none
  | some ps =>
    match segmentsOf ps [] [] with
    | [] => some ⟨[], []⟩
    | h :: t => some ⟨h, t⟩

def Piece.step (p : Piece) : Bytes → Option Bytes
  | [] => none
  | b :: rest =>
    let r := first b rest
    let after := rest.drop (r.bytes.length - 1)
    match p with
    | .star => none
    | .any => if b == byte '/' then none else some after
    | .exact c => if b == c then some rest else none
    | .set negated rs => if within rs r.char.toNat == negated then none else some after

def segment? : List Piece → Bytes → Option Bytes
  | [], s => some s
  | p :: ps, s =>
    match p.step s with
    | none => none
    | some rest => segment? ps rest

def stretches : Bytes → List Bytes
  | [] => [[]]
  | b :: rest => (b :: rest) :: if b == byte '/' then [] else stretches rest

/-- Each segment is placed as early as possible; the last one has to end the name. -/
def segmentsMatch : List (List Piece) → Bytes → Bool
  | [], s => s.isEmpty
  | seg :: segs, s =>
    if seg.isEmpty && segs.isEmpty then !s.has (byte '/')
    else
      let place := (stretches s).findSome? fun t =>
        match segment? seg t with
        | some rest => if rest.isEmpty || !segs.isEmpty then some rest else none
        | none => none
      match place with
      | some rest => segmentsMatch segs rest
      | none => false

def accepts (g : Glob) (name : Bytes) : Bool :=
  match segment? g.head name with
  | some rest => segmentsMatch g.segments rest
  | none => false

def isMatch (pattern name : Bytes) : Bool :=
  match parse? pattern with
  | some g => g.accepts name
  | none => false

end Glob

end SpanGauge
