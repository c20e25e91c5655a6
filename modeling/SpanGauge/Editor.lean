import SpanGauge.Shell.Word
import SpanGauge.Text.Blank
import SpanGauge.Path

/-! Command lines that open a file in an editor, and what is done for a finding. -/
namespace SpanGauge

inductive Effect where
  | run (command : Bytes)
  | copy (text : Bytes)
  deriving DecidableEq, Repr

namespace Editor

/-- Where the line goes: with the path behind a flag, behind a colon, or on its own. -/
inductive Style where
  | goto
  | suffixed
  | plus
  deriving DecidableEq, Repr

def styleOf (program : Bytes) : Style :=
  let name := Path.base program
  if ["code", "code-insiders", "codium", "cursor"].any fun n => Bytes.of n == name then .goto
  else if ["subl", "zed"].any fun n => Bytes.of n == name then .suffixed
  else .plus

def nameOf (setting : Bytes) : Bytes :=
  let name := Text.trim setting
  if name.isEmpty then Bytes.of "vi" else name

def space : Bytes := [byte ' ']

/-- The command that opens a path at a line, or none when there is no program to go by; a
line below one is no line. -/
def command? (setting path : Bytes) (line : Int) : Option Bytes :=
  let editor := nameOf setting
  if line < 1 then some (editor ++ space ++ Shell.quoted path)
  else
    (Text.words editor).head?.map fun program =>
      let place := path ++ [byte ':'] ++ decimal line
      match styleOf program with
      | .goto => editor ++ Bytes.of " -g " ++ Shell.quoted place
      | .suffixed => editor ++ space ++ Shell.quoted place
      | .plus => editor ++ Bytes.of " +" ++ decimal line ++ space ++ Shell.quoted path

def command (setting path : Bytes) (line : Int) : Bytes := (command? setting path line).getD []

def opening (setting path : Bytes) (line : Int) : Effect := .run (command setting path line)

end Editor

end SpanGauge
