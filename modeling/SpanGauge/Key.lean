import SpanGauge.Text.Utf8

/-! Keys of a terminal. -/
namespace SpanGauge
open Text

/-- A key: the name it is bound by and the characters it carries. -/
structure Key where
  name : Bytes
  chars : List Char
  deriving DecidableEq, Repr

namespace Key

def directions : List String := ["up", "down", "left", "right", "home", "end"]

def letters : List Char := ("abcdefghijklmnopqrstuvwxyz").toList

def named : List String :=
  ["enter", "esc", "tab", "backspace", "delete", "insert", "shift+tab", "pgup", "pgdown",
   "ctrl+pgup", "ctrl+pgdown", "ctrl+@", "ctrl+\\", "ctrl+]", "ctrl+^", "ctrl+_", " "] ++
  (["", "ctrl+", "shift+", "ctrl+shift+"].flatMap fun held => directions.map fun d => held ++ d) ++
  ((letters.filter fun c => c != 'i' && c != 'm').map fun c => "ctrl+" ++ String.singleton c) ++
  ((List.range 20).map fun n => "f" ++ toString (n + 1))

def withAlt (alt : Bool) (name : Bytes) : Bytes := if alt then Bytes.of "alt+" ++ name else name

/-- A named key. Only the space bar carries a character. -/
def ofName? (name : Bytes) (alt : Bool) : Option Key :=
  if named.any fun n => Bytes.of n == name then
    some ⟨withAlt alt name, if name == [byte ' '] then [' '] else []⟩
  else none

def typed (s : Bytes) (alt : Bool) : Key := ⟨withAlt alt s, Text.chars s⟩

/-- Pasted characters, whose name is bound to nothing. -/
def pasted (s : Bytes) : Key := ⟨byte '[' :: s ++ [byte ']'], Text.chars s⟩

end Key

end SpanGauge
