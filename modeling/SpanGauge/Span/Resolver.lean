import SpanGauge.Span
import SpanGauge.Signature
import SpanGauge.Lexer

/-! The resolver pairs signatures with braces. A signature waits for the next
opening brace, which pins it to the depth reached there; the closing brace met at
that depth ends the most recent signature pinned to it. -/
namespace SpanGauge

/-- A signature whose body has not been closed; `depth` is set once its body is open. -/
structure Pending where
  name : Bytes
  first : Nat
  depth : Option Int := none
  deriving DecidableEq, Repr

/-- Pending signatures and closed spans, the latest of each first. -/
structure Resolver where
  depth : Int := 0
  pending : List Pending := []
  closed : List Span := []
  deriving DecidableEq, Repr

namespace Resolver

def push (r : Resolver) (name : Bytes) (line : Nat) : Resolver :=
  { r with pending := ⟨name, line, none⟩ :: r.pending }

def pin (depth : Int) (p : Pending) : Pending :=
  match p.depth with
  | none => { p with depth := some depth }
  | some _ => p

def opening (r : Resolver) : Resolver :=
  { r with depth := r.depth + 1, pending := r.pending.map (pin (r.depth + 1)) }

/-- The latest signature pinned to a depth, and the others. -/
def take (depth : Int) : List Pending → Option (Pending × List Pending)
  | [] => none
  | p :: ps =>
    if p.depth = some depth then some (p, ps)
    else
      match take depth ps with
      | some (q, qs) => some (q, p :: qs)
      | none => none

def closing (r : Resolver) (line : Nat) : Resolver :=
  match take r.depth r.pending with
  | some (p, ps) => ⟨r.depth - 1, ps, Span.ofLines p.name p.first line :: r.closed⟩
  | none => { r with depth := r.depth - 1 }

def brace (r : Resolver) (line : Nat) : Brace → Resolver
  | .opening => r.opening
  | .closing => r.closing line

def braces (r : Resolver) (line : Nat) (bs : List Brace) : Resolver :=
  bs.foldl (fun r b => r.brace line b) r

end Resolver

end SpanGauge
