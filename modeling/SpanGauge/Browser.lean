import SpanGauge.TextField
import SpanGauge.Window
import SpanGauge.Report.Text
import SpanGauge.Text.Case

/-! The browser of findings: what it holds and how it answers messages. -/
namespace SpanGauge
open Text

structure Browser.Item where
  finding : Finding
  /-- The lines of its file; none when the file is not at hand. -/
  source : List Bytes
  deriving DecidableEq, Repr

namespace Browser.Item

def ofFinding (sources : List (Bytes × Bytes)) (f : Finding) : Item :=
  ⟨f, ((sources.find? fun s => s.1 == f.path).map fun s => Bytes.splitAt feed s.2).getD []⟩

def location (i : Item) : Bytes := i.finding.location

def haystack (i : Item) : Bytes := lower (i.finding.file ++ [byte ' '] ++ i.finding.span.name)

def target (i : Item) : Bytes := i.finding.path ++ [byte ':'] ++ decimal i.finding.span.first

def hasAll (i : Item) (needles : List Bytes) : Bool := needles.all fun w => Bytes.contains i.haystack w

end Browser.Item

structure Browser where
  width : Int := 0
  height : Int := 0
  input : TextField := {}
  quitting : Bool := false
  items : List Browser.Item
  filtered : List Browser.Item
  cursor : Int := 0
  offset : Int := 0
  selected : Option Finding := none
  columns : Report.Columns
  threshold : Int
  status : Bytes := []
  connected : Bool := true
  deriving DecidableEq, Repr

namespace Browser

def widen (c : Report.Columns) : Report.Columns := ⟨max c.gap 1, max c.location 8, max c.name 4⟩

def start (r : Report) (sources : List (Bytes × Bytes)) (c : Report.Columns) (connected : Bool) :
    Browser :=
  let items := r.list.map (Item.ofFinding sources)
  { items := items, filtered := items, columns := widen c, threshold := r.threshold,
    connected := connected }

inductive Message where
  | resize (width height : Int)
  | key (k : Key)
  /-- The query has rested long enough to be applied. -/
  | filter
  | status (text : Bytes) (fault : Option Bytes)
  deriving DecidableEq, Repr

inductive Command where
  | quit
  | edit (f : Finding)
  | copy (target : Bytes)
  /-- Work that comes back by itself; it applies the query when that has changed. -/
  | later (applies : Bool)
  deriving DecidableEq, Repr

def previewLines : Int := 8

def current? (b : Browser) : Option Item :=
  if b.cursor < 0 then none else b.filtered[b.cursor.toNat]?

/-- Scrolls until the cursor is within the lines that are surely shown. -/
def settle (b : Browser) : Browser :=
  { b with offset := Window.scroll b.cursor b.filtered.length
             (max (wrap (b.height - previewLines - 5)) 3) b.offset }

def lastIndex (b : Browser) : Int := max 0 (b.filtered.length - 1)

def move (b : Browser) (delta : Int) : Browser :=
  { b with cursor := Window.clamp (b.cursor + delta) 0 b.lastIndex }.settle

/-- The items that hold every word of a query. A blank query keeps them all. -/
def kept (query : Bytes) (items : List Item) : List Item :=
  let q := trim query
  if q.isEmpty then items else items.filter fun i => i.hasAll (words (lower q))

def applyQuery (b : Browser) : Browser :=
  { b with filtered := kept b.input.text b.items }.move 0

def handle (b : Browser) (name : Bytes) : Browser × Option Command :=
  let isKey (s : String) : Bool := Bytes.of s == name
  if isKey "ctrl+c" || isKey "esc" then ({ b with quitting := true }, some .quit)
  else if isKey "enter" then
    match b.current? with
    | some i => ({ b with selected := some i.finding }, some .quit)
    | none => (b, none)
  else if isKey "up" || isKey "ctrl+p" then (b.move (-1), none)
  else if isKey "down" || isKey "ctrl+n" then (b.move 1, none)
  else if isKey "pgup" then (b.move (-10), none)
  else if isKey "pgdown" then (b.move 10, none)
  else if isKey "home" || isKey "ctrl+a" then ({ b with cursor := 0 }.settle, none)
  else if isKey "end" || isKey "ctrl+e" then ({ b with cursor := b.lastIndex }.settle, none)
  else if isKey "ctrl+o" then
    match b.current?, b.connected with
    | some i, true => (b, some (.edit i.finding))
    | _, _ => (b, none)
  else if isKey "ctrl+y" then
    match b.current?, b.connected with
    | some i, true => (b, some (.copy i.target))
    | _, _ => (b, none)
  else (b, none)

def fieldAnswer (f : TextField) : Message → TextField
  | .key k => f.press k
  | _ => f.reflow

def Message.asksClipboard : Message → Bool
  | .key k => TextField.Action.of? k.name = some .paste
  | _ => false

def afterField (old new : TextField) (m : Message) : Option Command :=
  if old.value ≠ new.value then some (.later true)
  else if old.cursor ≠ new.cursor || m.asksClipboard then some (.later false)
  else none

def passOn (field : TextField → Message → TextField) (b : Browser) (m : Message) :
    Browser × Option Command :=
  ({ b with input := field b.input m }, afterField b.input (field b.input m) m)

def statusLine (text : Bytes) (fault : Option Bytes) : Bytes :=
  match fault with
  | some f => Bytes.of "error: " ++ f
  | none => text

/-- The answer to a message, when the field answers in the given way. Sizes are words of
64 bits. -/
def updateWith (field : TextField → Message → TextField) (b : Browser) (m : Message) :
    Browser × Option Command :=
  match m with
  | .resize w h =>
    { b with width := wrap w, height := wrap h,
             input := { b.input with width := wrap (w - 4) } }.passOn field m
  | .key k =>
    match b.handle k.name with
    | (b', some c) => (b', some c)
    | (b', none) => b'.passOn field m
  | .filter => (b.applyQuery, none)
  | .status text fault => ({ b with status := statusLine text fault }, none)

def update (b : Browser) (m : Message) : Browser × Option Command := b.updateWith fieldAnswer m

end Browser

end SpanGauge
