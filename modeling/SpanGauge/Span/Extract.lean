import SpanGauge.Text.Lines
import SpanGauge.Span.Resolver

/-! Extraction reads a source line by line: a line that opens with a signature
adds it to the pending ones, and then the code braces of the line are resolved. -/
namespace SpanGauge

structure Scan where
  line : Nat := 0
  lexer : Lexer := {}
  resolver : Resolver := {}
  deriving DecidableEq, Repr

namespace Scan

def opened (s : Scan) (bytes : Bytes) : Resolver :=
  match Signature.ofLine bytes with
  | some sig => s.resolver.push sig.name (s.line + 1)
  | none => s.resolver

def next (s : Scan) (bytes : Bytes) : Scan :=
  let lexed := s.lexer.line bytes
  ⟨s.line + 1, lexed.1, (s.opened bytes).braces (s.line + 1) lexed.2⟩

def lines (s : Scan) (ls : List Bytes) : Scan := ls.foldl next s

end Scan

/-- The function spans of a text, in the order in which their bodies close.
Signatures still pending at the end are dropped. -/
def Span.extract (text : Bytes) : List Span :=
  (({} : Scan).lines (Text.lines text)).resolver.closed.reverse

end SpanGauge
