import SpanGauge.Text.Bytes

/-! Log records. -/
namespace SpanGauge.Log

/-- Levels are numbers, so that there are levels between the named ones. -/
abbrev Level := Int

def debug : Level := -4
def info : Level := 0
def warn : Level := 4
def error : Level := 8

inductive Value where
  | text (s : Bytes)
  | int (n : Int)
  | bool (b : Bool)
  | list (items : List Bytes)
  deriving DecidableEq, Repr

structure Entry where
  level : Level
  message : Bytes
  attrs : List (Bytes × Value)
  deriving DecidableEq, Repr

def text (key : String) (s : Bytes) : Bytes × Value := (Bytes.of key, .text s)
def int (key : String) (n : Int) : Bytes × Value := (Bytes.of key, .int n)

def entry (level : Level) (message : String) (attrs : List (Bytes × Value)) : Entry :=
  ⟨level, Bytes.of message, attrs⟩

end SpanGauge.Log
