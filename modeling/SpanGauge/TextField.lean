import SpanGauge.Text.Width
import SpanGauge.Text.Blank
import SpanGauge.Text.Integer
import SpanGauge.Style
import SpanGauge.Key

/-! A line of text that is edited in place. Of a text too wide for the field a window
is shown, which moves only when the cursor leaves it. -/
namespace SpanGauge
open Text

structure TextField where
  value : List Char := []
  cursor : Nat := 0
  /-- The cells of the field; zero or less is no limit. -/
  width : Int := 50
  /-- The window runs from `first` to before `last`. -/
  first : Nat := 0
  last : Nat := 0
  deriving DecidableEq, Repr

namespace TextField

def capacity : Nat := 256

def placeholder : String := "Filter by file or function..."

def text (f : TextField) : Bytes := ofChars f.value

/-- How many characters fit from the window's start on; the last may stand over by one. -/
def fitAfter (width : Int) : Int → List Char → Nat
  | _, [] => 0
  | w, c :: cs =>
    if width < w then 0
    else
      let w' := w + loneCells c
      if w' ≤ width + 1 then fitAfter width w' cs + 1 else 0

/-- How many characters fit before the window's end, the nearest first; the first
character of the text is not looked at. -/
def fitBefore (width : Int) : Int → List Char → Nat
  | _, [] => 0
  | _, [_] => 0
  | w, c :: cs =>
    if width ≤ w then 0
    else
      let w' := w + loneCells c
      if w' ≤ width then fitBefore width w' cs + 1 else 0

def reflow (f : TextField) : TextField :=
  if f.width ≤ 0 || (lineCells f.text : Int) ≤ f.width then
    { f with first := 0, last := f.value.length }
  else
    let last := min f.last f.value.length
    if f.cursor < f.first then
      { f with first := f.cursor,
               last := f.cursor + fitAfter f.width 0 (f.value.drop f.cursor) }
    else if last ≤ f.cursor then
      { f with last := f.cursor,
               first := f.cursor - fitBefore f.width 0 (f.value.take f.cursor).reverse }
    else { f with last := last }

def moveTo (f : TextField) (n : Nat) : TextField :=
  { f with cursor := min n f.value.length }.reflow

/-- Tabs and line ends are blanks; other controls cannot be typed. -/
def clean (cs : List Char) : List Char :=
  cs.filterMap fun c =>
    let n := c.toNat
    if c == '\t' || c == '\n' || c == '\r' then some ' '
    else if n < 32 || (0x7F ≤ n && n ≤ 0x9F) || c == replacement then none
    else some c

/-- Puts a text in place of the value. The cursor goes to its end from an empty field or
from behind the end, and the window follows once more. -/
def replaceWith (f : TextField) (cs : List Char) : TextField :=
  let g := { f with value := cs.take capacity }
  let atEnd := (f.cursor = 0 && f.value.isEmpty) || g.value.length < f.cursor
  (if atEnd then g.moveTo g.value.length else g).reflow

def setText (f : TextField) (s : Bytes) : TextField := f.replaceWith (clean (chars s))

def type (f : TextField) (cs : List Char) : TextField :=
  let typed := (clean cs).take (capacity - f.value.length)
  if capacity ≤ f.value.length then f
  else
    { f with cursor := f.cursor + typed.length }.replaceWith
      (f.value.take f.cursor ++ typed ++ f.value.drop f.cursor)

def blankAt (f : TextField) (n : Nat) : Bool := (f.value[n]?.map isBlank).getD false

def before (p : Char → Bool) (f : TextField) : Nat → Nat
  | 0 => 0
  | n + 1 => if (f.value[n]?.map p).getD false then before p f n else n + 1

def after (p : Char → Bool) (f : TextField) (n : Nat) : Nat := n + ((f.value.drop n).takeWhile p).length

def notBlank (c : Char) : Bool := !isBlank c

def wordBack (f : TextField) : TextField :=
  f.moveTo (f.before notBlank (f.before isBlank f.cursor))

def wordForward (f : TextField) : TextField :=
  f.moveTo (f.after notBlank (f.after isBlank f.cursor))

def deleteBack (f : TextField) : TextField :=
  if f.cursor = 0 then f
  else { f with value := f.value.take (f.cursor - 1) ++ f.value.drop f.cursor }.moveTo (f.cursor - 1)

def deleteForward (f : TextField) : TextField :=
  { f with value := f.value.take f.cursor ++ f.value.drop (f.cursor + 1) }

/-- The start of the blanks that end at or before `n`; the first character stops them. -/
def skipBlanks (f : TextField) : Nat → Nat
  | 0 => 0
  | n + 1 => if f.blankAt (n + 1) then skipBlanks f n else n + 1

/-- The place of the blank before the word that ends at `n`, or the start. -/
def skipWord (f : TextField) : Nat → Nat
  | 0 => 0
  | n + 1 => if f.blankAt (n + 1) then n + 1 else skipWord f n

/-- Deletes the word before the cursor and the blanks after it; the blank before the
word stays. -/
def deleteWordBack (f : TextField) : TextField :=
  if f.cursor = 0 then f
  else
    let low := f.skipWord (f.skipBlanks (f.cursor - 1))
    let g := f.moveTo low
    let h := if low = 0 then g else g.moveTo (low + 1)
    { h with value := h.value.take h.cursor ++ h.value.drop f.cursor }

def deleteWordForward (f : TextField) : TextField :=
  if f.value.length ≤ f.cursor then f
  else
    let stop := f.after notBlank (f.after isBlank (f.cursor + 1))
    let g := f.moveTo stop
    { g with value := f.value.take f.cursor ++ f.value.drop stop }.moveTo f.cursor

def deleteToEnd (f : TextField) : TextField :=
  { f with value := f.value.take f.cursor }.moveTo f.cursor

def deleteToStart (f : TextField) : TextField :=
  { f with value := f.value.drop f.cursor, first := 0 }.moveTo 0

inductive Action where
  | back | forward | wordBack | wordForward | start | stop
  | deleteBack | deleteForward | deleteWordBack | deleteWordForward | deleteToEnd | deleteToStart
  | paste
  | nothing
  deriving DecidableEq, Repr

def bindings : List (String × Action) :=
  [("alt+backspace", .deleteWordBack), ("ctrl+w", .deleteWordBack),
   ("backspace", .deleteBack), ("ctrl+h", .deleteBack),
   ("alt+left", .wordBack), ("ctrl+left", .wordBack), ("alt+b", .wordBack),
   ("left", .back), ("ctrl+b", .back),
   ("alt+right", .wordForward), ("ctrl+right", .wordForward), ("alt+f", .wordForward),
   ("right", .forward), ("ctrl+f", .forward),
   ("home", .start), ("ctrl+a", .start),
   ("delete", .deleteForward), ("ctrl+d", .deleteForward),
   ("end", .stop), ("ctrl+e", .stop),
   ("ctrl+k", .deleteToEnd), ("ctrl+u", .deleteToStart), ("ctrl+v", .paste),
   ("alt+delete", .deleteWordForward), ("alt+d", .deleteWordForward),
   ("down", .nothing), ("ctrl+n", .nothing), ("up", .nothing), ("ctrl+p", .nothing)]

def Action.of? (name : Bytes) : Option Action :=
  (bindings.find? fun b => Bytes.of b.1 == name).map (·.2)

def act (f : TextField) : Action → TextField
  | .back => if f.cursor = 0 then f else f.moveTo (f.cursor - 1)
  | .forward => f.moveTo (f.cursor + 1)
  | .wordBack => f.wordBack
  | .wordForward => f.wordForward
  | .start => f.moveTo 0
  | .stop => f.moveTo f.value.length
  | .deleteBack => f.deleteBack
  | .deleteForward => f.deleteForward
  | .deleteWordBack => f.deleteWordBack
  | .deleteWordForward => f.deleteWordForward
  | .deleteToEnd => f.deleteToEnd
  | .deleteToStart => f.deleteToStart
  | .paste | .nothing => f

/-- A key that is not bound types its characters. -/
def press (f : TextField) (k : Key) : TextField :=
  match Action.of? k.name with
  | some a => (f.act a).reflow
  | none => (f.type k.chars).reflow

/-! How the field looks. -/

def faint : Style := { foreground := some (Bytes.of "240") }
def reversed : Style := { reverse := true }
def spaces (n : Int) : Bytes := Bytes.replicate n.toNat ' '

def lead : Bytes := Bytes.of "> "

def emptyView (f : TextField) (p : Style.Profile) : Bytes :=
  let hint := Bytes.of placeholder
  let shown := if 0 < f.width then min hint.length (f.width.toNat + 1) else hint.length
  lead ++ reversed.render p (hint.take 1) ++ faint.render p ((hint.take shown).drop 1) ++
    (if 0 < f.width then faint.render p (spaces (f.width - hint.length + 1)) else [])

def view (f : TextField) (p : Style.Profile) : Bytes :=
  if f.value.isEmpty then f.emptyView p
  else
    let shown := (f.value.take f.last).drop f.first
    let here := f.cursor - f.first
    let inside := here < shown.length
    let under := match shown[here]? with
      | some c => encode c
      | none => [byte ' ']
    let cells : Int := lineCells (ofChars shown)
    let gap := if 0 < f.width && cells ≤ f.width then f.width - cells + (if inside then 1 else 0) else 0
    lead ++ ofChars (shown.take here) ++ reversed.render p under ++ ofChars (shown.drop (here + 1)) ++
      spaces gap

end TextField

end SpanGauge
