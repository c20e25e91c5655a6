/-! Patterns over sequences of symbols, with the words they derive and a
matcher that hands the unread rest to what follows. The matcher tries the longer
alternative first; whether it succeeds depends only on the derivable words. -/
namespace SpanGauge

inductive Pattern (α : Type) where
  | empty
  | one (test : α → Bool)
  | many (test : α → Bool)
  | seq (first second : Pattern α)
  | alt (left right : Pattern α)
  | rep (body : Pattern α)

namespace Pattern

variable {α β : Type}

def optional (p : Pattern α) : Pattern α := .alt p .empty

def some1 (test : α → Bool) : Pattern α := .seq (.one test) (.many test)

def concat : List (Pattern α) → Pattern α
  | [] => .empty
  | [p] => p
  | p :: ps => .seq p (concat ps)

def choice : List (Pattern α) → Pattern α
  | [] => .one fun _ => false
  | [p] => p
  | p :: ps => .alt p (choice ps)

def word [BEq α] : List α → Pattern α
  | [] => .empty
  | [a] => .one (· == a)
  | a :: w => .seq (.one (· == a)) (word w)

inductive Derives : Pattern α → List α → Prop
  | empty : Derives .empty []
  | one {test a} (h : test a = true) : Derives (.one test) [a]
  | many {test w} (h : ∀ a ∈ w, test a = true) : Derives (.many test) w
  | seq {p q u v} (hp : Derives p u) (hq : Derives q v) : Derives (.seq p q) (u ++ v)
  | left {p q u} (h : Derives p u) : Derives (.alt p q) u
  | right {p q u} (h : Derives q u) : Derives (.alt p q) u
  | stop {p} : Derives (.rep p) []
  | more {p u v} (hp : Derives p u) (hr : Derives (.rep p) v) : Derives (.rep p) (u ++ v)

/-- What is left after each run of passing symbols, the longest run first. -/
def rests (test : α → Bool) : List α → List (List α) → List (List α)
  | [], acc => [] :: acc
  | a :: s, acc => if test a then rests test s ((a :: s) :: acc) else (a :: s) :: acc

/-- Repeats a step as often as there are symbols in the first list, then hands over to
`k`. A step that reads something cannot be repeated more often than the input is long. -/
def repeating (step : (List α → Option β) → List α → Option β) (k : List α → Option β) :
    List α → List α → Option β
  | [], s => k s
  | _ :: turns, s =>
    match step (repeating step k turns) s with
    | some b => some b
    | none => k s

def run : Pattern α → (List α → Option β) → List α → Option β
  | .empty, k, s => k s
  | .one test, k, s =>
    match s with
    | [] => none
    | a :: t => if test a then k t else none
  | .many test, k, s => (rests test s []).findSome? k
  | .seq p q, k, s => p.run (q.run k) s
  | .alt p q, k, s =>
    match p.run k s with
    | some b => some b
    | none => q.run k s
  | .rep p, k, s => repeating p.run k s s

def begins (p : Pattern α) (s : List α) : Bool := (p.run (fun _ => some ()) s).isSome

end Pattern

end SpanGauge
