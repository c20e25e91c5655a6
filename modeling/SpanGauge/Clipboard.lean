import SpanGauge.Text.Bytes

/-! The clipboard: the first tool that is installed takes the text; without any the
text is printed. -/
namespace SpanGauge.Clipboard

inductive Tool where
  | wlCopy
  | xclip
  | xsel
  | pbcopy
  deriving DecidableEq, Repr

/-- The tools in order of preference. -/
def tools : List Tool := [.wlCopy, .xclip, .xsel, .pbcopy]

def Tool.name : Tool → String
  | .wlCopy => "wl-copy"
  | .xclip => "xclip"
  | .xsel => "xsel"
  | .pbcopy => "pbcopy"

def Tool.arguments : Tool → List String
  | .wlCopy => []
  | .xclip => ["-selection", "clipboard"]
  | .xsel => ["--clipboard", "--input"]
  | .pbcopy => []

inductive Delivery where
  | tool (t : Tool) (text : Bytes)
  | printed (line : Bytes)
  deriving DecidableEq, Repr

def copy (installed : List Bytes) (text : Bytes) : Delivery :=
  match tools.find? fun t => installed.contains (Bytes.of t.name) with
  | some t => .tool t text
  | none => .printed (text ++ [byte '\n'])

def fault? (status : Nat) : Option Bytes :=
  if status = 0 then none else some (Bytes.of "exit status " ++ decimal status)

end SpanGauge.Clipboard
