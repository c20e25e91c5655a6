import SpanGauge.Yaml.Writer

/-! From the characters of a YAML text to its tokens. Indentation opens and closes blocks, and a
key on one line is known as one only at its colon, so that its token is put in front of what has
been read since. -/
namespace SpanGauge.Yaml
open Text

structure Cursor where
  rest : List Char
  index : Nat := 0
  line : Nat := 0
  column : Nat := 0

namespace Cursor

def peek (p : Cursor) : Option Char := p.rest.head?

def next (p : Cursor) : Cursor :=
  match p.rest with
  | [] => p
  | c :: rest =>
    if isBreak c then ⟨rest, p.index + 1, p.line + 1, 0⟩
    else ⟨rest, p.index + 1, p.line, p.column + 1⟩

def advance (p : Cursor) : Nat → Cursor
  | 0 => p
  | n + 1 => p.next.advance n

def past (f : Char → Bool) (p : Cursor) : Cursor := p.advance (p.rest.takeWhile f).length

def pastLine : Cursor → Cursor := past fun c => !isBreak c

def blankAt (p : Cursor) (n : Nat) : Bool :=
  ((p.rest.drop n).head?.map fun c => isGap c || isBreak c).getD true

def atMarker (p : Cursor) : Bool :=
  p.column = 0 && (p.rest.take 3 == ['-', '-', '-'] || p.rest.take 3 == ['.', '.', '.']) &&
    p.blankAt 3

end Cursor

inductive Token where
  | version (major minor : Nat)
  | tagPrefix (handle text : List Char)
  | documentStart | documentEnd
  | listStart | mapStart | blockEnd
  | flowListStart | flowListEnd | flowMapStart | flowMapEnd | flowEntry
  | item | key | value
  | anchor (name : List Char)
  | alias (name : List Char)
  | tag (handle text : List Char)
  | scalar (plain : Bool) (text : List Char)
  | streamEnd
  | broken
  deriving DecidableEq, Repr

structure SimpleKey where
  start : Cursor
  token : Nat
  required : Bool

structure Scanner where
  at_ : Cursor
  tokens : Array Token := #[]
  /-- The columns of the open blocks, the innermost first. -/
  indents : List Int := []
  /-- What may be a key at each depth of brackets, the innermost first. -/
  keys : List (Option SimpleKey) := [none]
  keyAllowed : Bool := true

namespace Scanner

def indent (s : Scanner) : Int := s.indents.head?.getD (-1)
def inFlow (s : Scanner) : Bool := 1 < s.keys.length
def push (s : Scanner) (t : Token) : Scanner := { s with tokens := s.tokens.push t }
def move (s : Scanner) (p : Cursor) : Scanner := { s with at_ := p }

def mark (s : Scanner) (t : Token) : Scanner := (s.push t).move s.at_.next

def close (s : Scanner) (column : Int) : Scanner :=
  if s.inFlow then s
  else
    let closed := s.indents.takeWhile (column < ·)
    { s with
      tokens := s.tokens ++ Array.replicate closed.length .blockEnd
      indents := s.indents.drop closed.length }

/-- Opens a block in a column, unless it is open. Its token goes before another one. -/
def opened (s : Scanner) (column token : Nat) (t : Token) : Scanner :=
  if s.inFlow || (column : Int) ≤ s.indent then s
  else { s with tokens := s.tokens.insertIdxIfInBounds token t, indents := column :: s.indents }

def dropKey (s : Scanner) : Option Scanner :=
  match s.keys with
  | some k :: ks => if k.required then none else some { s with keys := none :: ks }
  | _ => some s

def saveKey (s : Scanner) : Option Scanner :=
  if !s.keyAllowed then some s
  else
    let required := !s.inFlow && s.indent == s.at_.column
    s.dropKey.map fun s =>
      { s with keys := some ⟨s.at_, s.tokens.size, required⟩ :: s.keys.tail }

def comments : Nat → Cursor → Cursor
  | 0, p => p
  | fuel + 1, p =>
    let q := p.pastLine
    let r := q.past fun c => isGap c || isBreak c
    if r.peek == some '#' then comments fuel r else q

/-- Goes on to the next token. Where a key may begin, no tab stands before it. -/
def toToken : Nat → Scanner → Scanner
  | 0, s => s
  | fuel + 1, s =>
    let p := if s.at_.column = 0 && s.at_.peek == some (Char.ofNat 0xFEFF) then s.at_.next else s.at_
    let q := p.past fun c => c == ' ' || ((s.inFlow || !s.keyAllowed) && c == '\t')
    let r := if q.peek == some '#' then comments q.rest.length q else q
    if (r.peek.map isBreak).getD false then
      toToken fuel { s with at_ := r.next, keyAllowed := s.keyAllowed || !s.inFlow }
    else s.move r

def behind (s : Scanner) : Scanner :=
  let p := s.at_.past isGap
  if p.peek == some '#' then s.move p.pastLine else s

/-! Scalars. -/

structure Gap where
  blanks : List Char := []
  broken : Bool := false
  first : Option Char := none
  more : List Char := []

/-- One line end is a blank, of several the first is dropped, and blanks beside them count
for nothing. -/
def Gap.text (g : Gap) : List Char :=
  if !g.broken then g.blanks.reverse
  else if g.first == some '\n' then if g.more.isEmpty then [' '] else g.more.reverse
  else g.first.toList ++ g.more.reverse

def gap? (least : Int) : Nat → Gap → Cursor → Option (Gap × Cursor)
  | 0, _, _ => none
  | fuel + 1, g, p =>
    match p.peek with
    | none => some (g, p)
    | some c =>
      if isGap c then
        if !g.broken then gap? least fuel { g with blanks := c :: g.blanks } p.next
        else if c == '\t' && (p.column : Int) < least then none
        else gap? least fuel g p.next
      else if isBreak c then
        gap? least fuel (if g.broken then { g with more := c :: g.more }
          else { broken := true, first := some c }) p.next
      else some (g, p)

/-- A colon before a blank ends a plain scalar, and inside brackets other marks do. -/
def stops (inFlow : Bool) (c : Char) (p : Cursor) : Bool :=
  (c == ':' && p.blankAt 1) || (inFlow && ",?[]\x7b\x7d".toList.contains c)

def word (inFlow : Bool) : Nat → List Char → Cursor → List Char × Cursor
  | 0, acc, p => (acc, p)
  | fuel + 1, acc, p =>
    match p.peek with
    | none => (acc, p)
    | some c =>
      if isGap c || isBreak c || stops inFlow c p then (acc, p)
      else word inFlow fuel (c :: acc) p.next

/-- A plain scalar from behind a gap on, the latest character first, and whether a line end
stands behind it. -/
def plain? (inFlow : Bool) (least : Int) :
    Nat → List Char → Gap → Cursor → Option (List Char × Bool × Cursor)
  | 0, _, _, _ => none
  | fuel + 1, acc, g, p =>
    if p.atMarker || p.peek == some '#' then some (acc, g.broken, p)
    else
      let (w, q) := word inFlow (p.rest.length + 1) [] p
      let (acc, g) := if w.isEmpty then (acc, g) else (w ++ g.text.reverse ++ acc, {})
      if !q.blankAt 0 || q.rest.isEmpty then some (acc, g.broken, q)
      else
        match gap? least (q.rest.length + 1) g q with
        | none => none
        | some (g, r) =>
          if !inFlow && (r.column : Int) < least then some (acc, g.broken, r)
          else plain? inFlow least fuel acc g r

def hexDigits? (cs : List Char) : Option Nat :=
  cs.foldl (fun v c => v.bind fun n =>
    if '0' ≤ c ∧ c ≤ '9' then some (n * 16 + (c.toNat - 48))
    else if 'a' ≤ c ∧ c ≤ 'f' then some (n * 16 + (c.toNat - 87))
    else if 'A' ≤ c ∧ c ≤ 'F' then some (n * 16 + (c.toNat - 55))
    else none) (some 0)

def letterEscape? (c : Char) : Option Char :=
  match c with
  | '0' => some (Char.ofNat 0) | 'a' => some (Char.ofNat 7) | 'b' => some (Char.ofNat 8)
  | 't' => some '\t' | '\t' => some '\t' | 'n' => some '\n' | 'v' => some (Char.ofNat 11)
  | 'f' => some (Char.ofNat 12) | 'r' => some '\r' | 'e' => some (Char.ofNat 27)
  | ' ' => some ' ' | '"' => some '"' | '\'' => some '\'' | '/' => some '/' | '\\' => some '\\'
  | 'N' => some (Char.ofNat 0x85) | '_' => some (Char.ofNat 0xA0) | 'L' => some (Char.ofNat 0x2028)
  | 'P' => some (Char.ofNat 0x2029) | _ => none

def escapeWidth (c : Char) : Nat :=
  match c with
  | 'x' => 2 | 'u' => 4 | 'U' => 8 | _ => 0

def escape? (p : Cursor) : Option (Char × Cursor) :=
  match p.rest with
  | [] => none
  | c :: rest =>
    let w := escapeWidth c
    if w = 0 then (letterEscape? c).map fun d => (d, p.next)
    else if rest.length < w then none
    else
      match hexDigits? (rest.take w) with
      | some n => if n.isValidChar then some (Char.ofNat n, p.advance (1 + w)) else none
      | none => none

def quoted? (quote : Char) : Nat → List Char → Cursor → Option (List Char × Cursor)
  | 0, _, _ => none
  | fuel + 1, acc, p =>
    if p.atMarker then none
    else
      match p.rest with
      | [] => none
      | c :: rest =>
        if c == quote then
          if quote == '\'' && rest.head? == some quote then quoted? quote fuel (c :: acc) (p.advance 2)
          else some (acc, p.next)
        else if isGap c || isBreak c then
          match gap? (-1) (p.rest.length + 1) {} p with
          | some (g, q) => quoted? quote fuel (g.text.reverse ++ acc) q
          | none => none
        else if c == '\\' && quote == '"' then
          if (rest.head?.map isBreak).getD false then
            match gap? (-1) (p.rest.length + 1) { broken := true } (p.advance 2) with
            | some (g, q) => quoted? quote fuel (g.more ++ acc) q
            | none => none
          else
            match escape? p.next with
            | some (d, q) => quoted? quote fuel (d :: acc) q
            | none => none
        else quoted? quote fuel (c :: acc) p.next

def header? (p : Cursor) : Option (Option Char × Nat × Cursor) :=
  let sign (p : Cursor) : Option Char × Cursor :=
    match p.peek with
    | some c => if c == '+' || c == '-' then (some c, p.next) else (none, p)
    | none => (none, p)
  let width (p : Cursor) : Nat × Bool × Cursor :=
    match p.peek with
    | some c => if c.isDigit then (c.toNat - 48, c == '0', p.next) else (0, false, p)
    | none => (0, false, p)
  let (chomp, q) := sign p
  let (w, zero, r) := width q
  if zero then none
  else if chomp.isNone && w ≠ 0 then
    let (chomp, t) := sign r
    some (chomp, w, t)
  else some (chomp, w, r)

/-- Past the indentation of a block of text and its empty lines: the line ends, the deepest
column, and the place. Indentation is of spaces. -/
def emptyLines? (depth : Nat) : Nat → Nat → List Char → Cursor → Option (Nat × List Char × Cursor)
  | 0, _, _, _ => none
  | fuel + 1, deepest, breaks, p =>
    let spaces := (p.rest.takeWhile (· == ' ')).length
    let q := p.advance (if depth = 0 then spaces else min spaces (depth - p.column))
    let deepest := max deepest q.column
    match q.peek with
    | some c =>
      if c == '\t' && (depth = 0 || q.column < depth) then none
      else if isBreak c then emptyLines? depth fuel deepest (c :: breaks) q.next
      else some (deepest, breaks, q)
    | none => some (deepest, breaks, q)

def blockLines? (isFolded : Bool) (depth : Nat) : Nat → List Char → Option Char → Bool → List Char →
    Cursor → Option (List Char × Option Char × List Char × Cursor)
  | 0, _, _, _, _, _ => none
  | fuel + 1, acc, ended, wasDeep, breaks, p =>
    if p.column ≠ depth || p.rest.isEmpty then some (acc, ended, breaks, p)
    else
      let deep := (p.peek.map isGap).getD false
      let joined :=
        if isFolded && !wasDeep && !deep && ended == some '\n' then
          if breaks.isEmpty then [' '] else []
        else ended.toList
      let line := p.rest.takeWhile fun c => !isBreak c
      let q := p.advance line.length
      match emptyLines? depth (q.rest.length + 1) 0 [] q.next with
      | none => none
      | some (_, more, r) =>
        blockLines? isFolded depth fuel (line.reverse ++ breaks ++ joined ++ acc) q.peek deep more r

def block? (isFolded : Bool) (indent : Int) (p : Cursor) : Option (List Char × Cursor) := do
  let (chomp, width, q) ← header? p
  let q := q.past isGap
  let q := if q.peek == some '#' then q.pastLine else q
  if !q.blankAt 0 then none
  let body := q.next
  let given := if width = 0 then 0 else indent.toNat + width
  let (deepest, breaks, r) ← emptyLines? given (body.rest.length + 1) 0 [] body
  let depth := if given = 0 then max (max deepest (indent + 1).toNat) 1 else given
  let (acc, ended, tail, e) ← blockLines? isFolded depth (r.rest.length + 1) [] none false breaks r
  let kept := if chomp == some '-' then acc else ended.toList ++ acc
  some ((if chomp == some '+' then tail ++ kept else kept).reverse, e)

/-! Names, tags and directives. -/

def isNameChar (c : Char) : Bool := c.isAlphanum || c == '_' || c == '-'

def name? (p : Cursor) : Option (List Char × Cursor) :=
  let name := p.rest.takeWhile isNameChar
  let q := p.advance name.length
  if name.isEmpty || !(q.blankAt 0 || (q.peek.map fun c =>
      "?:,]\x7d%@".toList.contains c || c == Char.ofNat 96).getD false) then none
  else some (name, q)

def isTagChar (c : Char) : Bool := isNameChar c || ";/?:@&=+$,.!~*'()[]%".toList.contains c

/-- The text of a tag; an escaped byte is one of a character. -/
def tagBytes? : Nat → Bytes → List Char → Option Bytes
  | 0, _, _ => none
  | _ + 1, acc, [] => some acc
  | fuel + 1, acc, c :: cs =>
    if c == '%' then
      match if cs.length < 2 then none else hexDigits? (cs.take 2) with
      | some n => tagBytes? fuel (acc ++ [n.toUInt8]) (cs.drop 2)
      | none => none
    else tagBytes? fuel (acc ++ encode c) cs

def tagText? (p : Cursor) : Option (List Char × Cursor) :=
  let raw := p.rest.takeWhile isTagChar
  match tagBytes? (raw.length + 1) [] raw with
  | some bytes => if isValid bytes then some (chars bytes, p.advance raw.length) else none
  | none => none

def handle (p : Cursor) : List Char × Cursor :=
  let name := p.next.rest.takeWhile isNameChar
  let q := p.next.advance name.length
  if q.peek == some '!' then ('!' :: name ++ ['!'], q.next) else ('!' :: name, q)

/-- A tag: between angle brackets as it stands, after a handle, or after one mark. -/
def tag? (p : Cursor) : Option (Token × Cursor) := do
  let (t, q) ← show Option (Token × Cursor) from
    if p.next.peek == some '<' then do
      let (text, q) ← tagText? (p.advance 2)
      if text.isEmpty || q.peek ≠ some '>' then none
      some (.tag [] text, q.next)
    else do
      let (h, q) := handle p
      let (text, r) ← tagText? q
      if 1 < h.length && h.getLast? == some '!' then
        if text.isEmpty then none else some (.tag h text, r)
      else if h.length = 1 && text.isEmpty then some (.tag [] ['!'], r)
      else some (.tag ['!'] (h.tail ++ text), r)
  if q.blankAt 0 then some (t, q) else none

def versionPart? (p : Cursor) : Option (Nat × Cursor) :=
  let ds := p.rest.takeWhile Char.isDigit
  if ds.isEmpty || 9 < ds.length then none
  else some (ds.foldl (fun n c => n * 10 + (c.toNat - 48)) 0, p.advance ds.length)

def directive? (p : Cursor) : Option (Token × Cursor) := do
  let name := p.rest.takeWhile isNameChar
  let q := p.advance name.length
  if !q.blankAt 0 then none
  let q := q.past isGap
  let (t, r) ← show Option (Token × Cursor) from
    if name == "YAML".toList then do
      let (major, q) ← versionPart? q
      if q.peek ≠ some '.' then none
      let (minor, q) ← versionPart? q.next
      some (.version major minor, q)
    else if name == "TAG".toList then do
      if q.peek ≠ some '!' then none
      let (h, r) := handle q
      if 1 < h.length && h.getLast? ≠ some '!' then none
      if !(r.peek.map isGap).getD false then none
      let (text, r) ← tagText? (r.past isGap)
      if text.isEmpty || !r.blankAt 0 then none
      some (.tagPrefix h text, r)
    else none
  let r := r.past isGap
  let r := if r.peek == some '#' then r.pastLine else r
  if (r.peek.map isBreak).getD true then some (t, r.next) else none

/-! One token after the other. -/

def enter (s : Scanner) (t : Token) : Option Scanner :=
  s.saveKey.map fun s => { s.mark t with keys := none :: s.keys, keyAllowed := true }

def leave (s : Scanner) (t : Token) : Option Scanner :=
  s.dropKey.map fun s =>
    { s.mark t with keys := if s.inFlow then s.keys.tail else s.keys, keyAllowed := false }

def opening (s : Scanner) (start t : Token) : Option Scanner :=
  if !s.inFlow && !s.keyAllowed then none
  else (s.opened s.at_.column s.tokens.size start).dropKey.map fun s => s.mark t

/-- What was taken for a key still can be one: it is on this line, and not far away. -/
def foundKey (s : Scanner) : Option SimpleKey :=
  match s.keys.head? with
  | some (some k) => if k.start.line < s.at_.line || k.start.index + 1024 < s.at_.index then none
      else some k
  | _ => none

def value? (s : Scanner) : Option Scanner :=
  match s.foundKey with
  | some k =>
    let s := { s with tokens := s.tokens.insertIdxIfInBounds k.token .key }
    let s := s.opened k.start.column k.token .mapStart
    some { s.mark .value with keys := none :: s.keys.tail, keyAllowed := false }
  | none =>
    -- a key that has to be one is not finished any more
    match s.dropKey with
    | none => none
    | some s =>
      if !s.inFlow && !s.keyAllowed then none
      else
        let s := s.opened s.at_.column s.tokens.size .mapStart
        some { s.mark .value with keyAllowed := !s.inFlow }

def node (s : Scanner) (read : Option (Token × Cursor)) : Option Scanner := do
  let s ← s.saveKey
  let (t, p) ← read
  some { (s.push t).move p with keyAllowed := false }

def plainStarts (s : Scanner) (c : Char) : Bool :=
  !(isGap c || opensOther c || c == '-' || c == '?' || c == ':') ||
    (c == '-' && !((s.at_.next.peek.map isGap).getD false)) ||
    (!s.inFlow && (c == '?' || c == ':') && !s.at_.blankAt 1)

def read? (s : Scanner) (c : Char) : Option Scanner :=
  let p := s.at_
  let fuel := p.rest.length + 1
  if c == '[' then s.enter .flowListStart
  else if c == Char.ofNat 0x7B then s.enter .flowMapStart
  else if c == ']' then s.leave .flowListEnd
  else if c == Char.ofNat 0x7D then s.leave .flowMapEnd
  else if c == ',' then s.dropKey.map fun s => { s.mark .flowEntry with keyAllowed := true }
  else if c == '-' && p.blankAt 1 then
    (s.opening .listStart .item).map fun s => { s with keyAllowed := true }
  else if c == '?' && (s.inFlow || p.blankAt 1) then
    (s.opening .mapStart .key).map fun s => { s with keyAllowed := !s.inFlow }
  else if c == ':' && (s.inFlow || p.blankAt 1) then s.value?
  else if c == '*' then s.node ((name? p.next).map fun r => (.alias r.1, r.2))
  else if c == '&' then s.node ((name? p.next).map fun r => (.anchor r.1, r.2))
  else if c == '!' then s.node (tag? p)
  else if (c == '|' || c == '>') && !s.inFlow then do
    let s ← s.dropKey
    let (text, q) ← block? (c == '>') s.indent p.next
    some { (s.push (.scalar false text)).move q with keyAllowed := true }
  else if c == '\'' || c == '"' then
    s.node ((quoted? c fuel [] p.next).map fun r => (.scalar false r.1.reverse, r.2))
  else if plainStarts s c then do
    let s ← s.saveKey
    let (text, broken, q) ← plain? s.inFlow (s.indent + 1) fuel [] {} p
    some { (s.push (.scalar true text.reverse)).move q with keyAllowed := broken }
  else none

/-- A token that takes the start of a line: it closes all blocks. -/
def lineToken (s : Scanner) (read : Option (Token × Cursor)) : Option Scanner := do
  let s ← (s.close (-1)).dropKey
  let (t, p) ← read
  some { (s.push t).move p with keyAllowed := false }

def fetch (s : Scanner) (c : Char) : Option Scanner :=
  let p := s.at_
  if p.column = 0 && c == '%' then s.lineToken (directive? p.next)
  else if p.atMarker then
    s.lineToken (some (if c == '-' then .documentStart else .documentEnd, p.advance 3))
  else s.read? c

def run : Nat → Scanner → Array Token
  | 0, s => s.tokens.push .broken
  | fuel + 1, s =>
    let s := s.toToken (s.at_.rest.length + 1)
    let s := s.close s.at_.column
    match s.at_.peek with
    | none =>
      match (s.close (-1)).dropKey with
      | some s => s.tokens.push .streamEnd
      | none => s.tokens.push .broken
    | some c =>
      match s.fetch c with
      | none => s.tokens.push .broken
      | some t =>
        let line := t.at_.line == s.at_.line && t.tokens.back? != some .item
        run fuel (if line then t.behind else t)

end Scanner

/-- Line ends of two characters and of other alphabets are line feeds. -/
def unifyBreaks : List Char → List Char
  | '\r' :: '\n' :: cs => '\n' :: unifyBreaks cs
  | c :: cs => (if c == '\r' || c.toNat = 0x85 then '\n' else c) :: unifyBreaks cs
  | [] => []

def tokens (cs : List Char) : List Token :=
  (Scanner.run (cs.length + 1) { at_ := { rest := unifyBreaks cs } }).toList

end SpanGauge.Yaml
