import SpanGauge.Text.Width

/-! Text styles: weight, colours and a frame, written as terminal escape sequences. -/
namespace SpanGauge

inductive Style.Profile where
  | ascii
  | ansi256
  | truecolor
  deriving DecidableEq, Repr

/-- A style. A colour is a palette number or a hash and hexadecimal digits; a colour
that can be read as neither is set but shows nothing. -/
structure Style where
  bold : Bool := false
  reverse : Bool := false
  foreground : Option Bytes := none
  background : Option Bytes := none
  frame : Option Bytes := none
  deriving DecidableEq, Repr

namespace Style

def isPlain (s : Style) : Bool := s = {}

/-- A decimal number with an optional sign that fits in 64 bits. -/
def paletteIndex? (code : Bytes) : Option Int :=
  let digits :=
    match code with
    | b :: rest => if b == byte '-' || b == byte '+' then rest else code
    | [] => []
  if digits.isEmpty || !digits.all Bytes.isDigit then none
  else
    let n : Nat := digits.foldl (fun v b => v * 10 + (b.toNat - 48)) 0
    let v : Int := if code.head? == some (byte '-') then -n else n
    if -9223372036854775808 ≤ v ∧ v ≤ 9223372036854775807 then some v else none

def hexValue? (b : UInt8) : Option Nat :=
  if Bytes.isDigit b then some (b.toNat - 48)
  else if byte 'a' ≤ b && b ≤ byte 'f' then some (b.toNat - 87)
  else if byte 'A' ≤ b && b ≤ byte 'F' then some (b.toNat - 55)
  else none

/-- Up to `width` hexadecimal digits, at least one. -/
def hexRun? (width : Nat) (s : Bytes) : Option (Nat × Bytes) :=
  let ds := (s.take width).takeWhile fun b => (hexValue? b).isSome
  if ds.isEmpty then none
  else some (ds.foldl (fun v b => v * 16 + (hexValue? b).getD 0) 0, s.drop ds.length)

/-- Red, green and blue as fractions. Four bytes hold one digit a channel, any other
length two. -/
def hexColour? (code : Bytes) : Option (List Float) :=
  let short := code.length = 4
  let width := if short then 1 else 2
  let factor : Float := if short then 1.0 / 15.0 else 1.0 / 255.0
  match hexRun? width code.tail with
  | none => none
  | some (r, s1) =>
    match hexRun? width s1 with
    | none => none
    | some (g, s2) =>
      match hexRun? width s2 with
      | none => none
      | some (b, _) => some [r.toFloat * factor, g.toFloat * factor, b.toFloat * factor]

def semicolon : Bytes := [byte ';']

/-- The codes of a colour in the foreground (base 30) or background (base 40). -/
def colourCodes (profile : Profile) (ground : Int) (code : Bytes) : Option Bytes :=
  if profile = .ascii || code.isEmpty then none
  else if code.head? == some (byte '#') then
    if profile = .truecolor then
      (hexColour? code).map fun channels =>
        decimal (ground + 8) ++ Bytes.of ";2;" ++
          Bytes.join semicolon (channels.map fun x => decimal (x * 255).toUInt8.toNat)
    else none
  else
    (paletteIndex? code).map fun i =>
      if i < 8 then decimal (ground + i)
      else if i < 16 then decimal (ground + 60 + (i - 8))
      else decimal (ground + 8) ++ Bytes.of ";5;" ++ decimal i

def wrapped (codes : List Bytes) (text : Bytes) : Bytes :=
  if codes.isEmpty then text
  else Bytes.of "\x1b[" ++ Bytes.join semicolon codes ++ Bytes.of "m" ++ text ++ Bytes.of "\x1b[0m"

def ground (s : Style) (profile : Profile) : List Bytes :=
  ((s.background.bind (colourCodes profile 40)).map fun c => [c]).getD []

def codes (s : Style) (profile : Profile) : List Bytes :=
  if profile = .ascii then []
  else
    (if s.bold then [Bytes.of "1"] else []) ++ (if s.reverse then [Bytes.of "7"] else []) ++
      ((s.foreground.bind (colourCodes profile 30)).map fun c => [c]).getD [] ++ s.ground profile

def fillCodes (s : Style) (profile : Profile) : List Bytes :=
  if s.reverse then { s with bold := false }.codes profile else s.ground profile

def expandTabs (text : Bytes) : Bytes :=
  text.flatMap fun b => if b == 9 then Bytes.replicate 4 ' ' else [b]

/-- Carriage returns before line feeds are dropped. -/
def dropReturns : Bytes → Bytes
  | 13 :: 10 :: rest => 10 :: dropReturns rest
  | b :: rest => b :: dropReturns rest
  | [] => []

def align (fill : List Bytes) (lines : List Bytes) : List Bytes :=
  let widest := (lines.map Text.lineCells).foldl max 0
  lines.map fun l =>
    let short := widest - Text.lineCells l
    if short = 0 then l else l ++ wrapped fill (Bytes.replicate short ' ')

def repeated (n : Nat) (s : Bytes) : Bytes := (List.replicate n s).flatten

def framed (profile : Profile) (colour : Bytes) (lines : List Bytes) : List Bytes :=
  let codes := ((colourCodes profile 30 colour).map fun c => [c]).getD []
  let widest := (lines.map Text.lineCells).foldl max 0
  let bar := repeated widest (Bytes.of "─")
  let side := wrapped codes (Bytes.of "│")
  wrapped codes (Bytes.of "╭" ++ bar ++ Bytes.of "╮") ::
    lines.map (fun l => side ++ l ++ side) ++
    [wrapped codes (Bytes.of "╰" ++ bar ++ Bytes.of "╯")]

def newline : Bytes := [byte '\n']

/-- A text in a style. A plain style only expands tabs. -/
def render (s : Style) (profile : Profile) (text : Bytes) : Bytes :=
  if s.isPlain then expandTabs text
  else
    let lines := (Bytes.splitAt (byte '\n') (dropReturns (expandTabs text))).map
      (wrapped (s.codes profile))
    let even := if lines.length ≤ 1 then lines else align (s.fillCodes profile) lines
    Bytes.join newline
      (match s.frame with
       | some colour => framed profile colour even
       | none => even)

end Style

end SpanGauge
