import SpanGauge.Browser

/-! The screen of the browser: a preview of the current finding, the list and a footer. -/
namespace SpanGauge.Browser
open Text

structure Look where
  theme : Theme
  profile : Style.Profile
  deriving DecidableEq, Repr

def Look.draw (l : Look) (s : Style) (text : Bytes) : Bytes := s.render l.profile text

def space : Bytes := [byte ' ']
def newline : Bytes := [feed]

def rule (l : Look) (width : Int) : Bytes :=
  l.draw l.theme.divider (Style.repeated width.toNat (Bytes.of "─"))

def padRight (s : Bytes) (width : Int) : Bytes := s ++ Bytes.replicate (width.toNat - cells s) ' '

def title (l : Look) (f : Finding) : Bytes :=
  l.draw l.theme.path f.location ++ space ++ l.draw l.theme.header f.span.name ++ space ++
    l.draw (Report.lengthStyle l.theme f) (decimal f.span.count ++ Bytes.of " lines")

def sourceLine (l : Look) (width : Int) (r : Window.Row) : Bytes :=
  l.draw l.theme.dim r.number ++ space ++
    Report.truncate (Style.expandTabs r.text) (width - r.number.length - 1)

def previewRows (b : Browser) (l : Look) (width : Int) : List Bytes :=
  match b.current? with
  | some i =>
    title l i.finding ::
      (Window.rows i.source i.finding.span.first i.finding.span.last (previewLines - 1)).map
        (sourceLine l width)
  | none => []

def preview (b : Browser) (l : Look) (width : Int) : Bytes :=
  let rows := b.previewRows l width
  (rows ++ List.replicate (previewLines.toNat - rows.length) []).flatMap (· ++ newline) ++
    rule l width ++ newline

def row (b : Browser) (l : Look) (isSelected : Bool) (i : Item) : Bytes :=
  let t := l.theme
  let c := b.columns
  let f := i.finding
  let on (s : Style) : Style := if isSelected then t.onSelection s else s
  let gap := Bytes.replicate c.gap.toNat ' '
  let between := if isSelected then l.draw t.selected gap else gap
  let length := decimal f.span.count ++ (if f.allowed then Bytes.of " (allowed)" else [])
  let line := l.draw (on t.path) (padRight (Report.truncate i.location c.location) c.location) ++
    between ++ l.draw (on t.name) (padRight (Report.truncate f.span.name c.name) c.name) ++
    between ++ l.draw (on (Report.lengthStyle t f)) length
  (if isSelected then l.draw t.cursor (Bytes.of "▶ ") else Bytes.of "  ") ++ line

def shownRange (b : Browser) (height : Int) : Int × Int :=
  let w := Window.around b.cursor b.filtered.length height b.offset
  (w.first, w.stop)

def shown (b : Browser) (height : Int) : List (Item × Nat) :=
  let (first, stop) := b.shownRange height
  (b.filtered.zipIdx.take stop.toNat).drop first.toNat

def list (b : Browser) (l : Look) (height : Int) : Bytes :=
  (b.shown height).flatMap fun (i, n) => b.row l ((n : Int) = b.cursor) i ++ newline

def bullet : Bytes := Bytes.of " • "

def counts (b : Browser) : Bytes :=
  Bytes.of "  " ++ decimal b.filtered.length ++ [byte '/'] ++ decimal b.items.length ++
    Bytes.of " over " ++ decimal b.threshold ++ Bytes.of " lines"

def info (b : Browser) (l : Look) : Bytes :=
  let dim (s : Bytes) : Bytes := l.draw l.theme.dim s
  Bytes.join bullet
    ([dim b.counts, dim (Bytes.of "Enter/Ctrl+O open"), dim (Bytes.of "Ctrl+Y copy"),
      dim (Bytes.of "ESC exit")] ++
     (if b.status.isEmpty then [] else [l.draw l.theme.excused b.status]))

def footer (b : Browser) (l : Look) (width : Int) : Bytes :=
  rule l width ++ newline ++ b.info l ++ newline ++ b.input.view l.profile

def footerLines : Int := 3

def screenWidth (b : Browser) : Int := max b.width 80
def screenHeight (b : Browser) : Int := max b.height 24

def room (b : Browser) (l : Look) : Int :=
  b.screenHeight - Window.lineCount (b.preview l b.screenWidth) - footerLines

/-- Lines of the list; at least three, even when there is no room for them. -/
def listHeight (b : Browser) (l : Look) : Int := max (b.room l) 3

def view (b : Browser) (l : Look) : Bytes :=
  if b.quitting then []
  else
    let middle := b.list l (b.listHeight l)
    b.preview l b.screenWidth ++ middle ++
      List.replicate (b.room l - Window.lineCount middle).toNat feed ++ b.footer l b.screenWidth

end SpanGauge.Browser
