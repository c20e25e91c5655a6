import SpanGauge.Style

/-! Themes: the styles of the report and of the browser. -/
namespace SpanGauge

structure Theme where
  path : Style := {}
  name : Style := {}
  violation : Style := {}
  excused : Style := {}
  dim : Style := {}
  header : Style := {}
  selected : Style := {}
  cursor : Style := {}
  border : Style := {}
  divider : Style := {}
  /-- The background of the selected row; empty for none. -/
  selection : Bytes := []
  deriving DecidableEq, Repr

structure Theme.Colours where
  path : Bytes := []
  name : Bytes := []
  violation : Bytes := []
  excused : Bytes := []
  dim : Bytes := []
  border : Bytes := []
  cursor : Bytes := []
  selected : Bytes := []
  deriving DecidableEq, Repr

namespace Theme

def plain : Theme := {}

def coloured (code : Bytes) : Style := { foreground := some code }

def standard : Theme where
  path := coloured (Bytes.of "6")
  name := coloured (Bytes.of "15")
  violation := coloured (Bytes.of "1")
  excused := coloured (Bytes.of "3")
  dim := coloured (Bytes.of "241")
  header := { bold := true }
  selected := { background := some (Bytes.of "236") }
  cursor := coloured (Bytes.of "212")
  border := { frame := some (Bytes.of "240") }
  divider := coloured (Bytes.of "240")
  selection := Bytes.of "236"

/-- The palette number of a foreground code such as 31 or 92; any other text is
already a colour. -/
def paletteOf (code : Bytes) : Bytes :=
  match code with
  | [a, b] =>
    if byte '0' ≤ b && b ≤ byte '7' then
      if a == byte '3' then decimal (b.toNat - 48)
      else if a == byte '9' then decimal (b.toNat - 48 + 8)
      else code
    else code
  | _ => code

def ofColours (c : Colours) : Theme where
  path := coloured (paletteOf c.path)
  name := coloured (paletteOf c.name)
  violation := coloured (paletteOf c.violation)
  excused := coloured (paletteOf c.excused)
  dim := coloured c.dim
  header := { bold := true, foreground := some (paletteOf c.name) }
  selected := { background := some c.selected }
  cursor := coloured c.cursor
  border := { frame := some c.border }
  divider := coloured c.border
  selection := c.selected

def onSelection (t : Theme) (s : Style) : Style :=
  if t.selection.isEmpty then s else { s with background := some t.selection }

end Theme

end SpanGauge
