import SpanGauge.Data
import SpanGauge.Text.Quoted

/-! Reading TOML texts. A table is defined once: what a header or a dotted key has closed takes no
more entries, and a value never does. -/
namespace SpanGauge.Toml
open Text

def isGap (c : Char) : Bool := c == ' ' || c == '\t'

def skipGaps (s : List Char) : List Char := s.dropWhile isGap

def isControl (c : Char) : Bool := (c.toNat < 32 && c != '\t') || c.toNat = 127

def lineEnd? : List Char → Option (List Char)
  | '\n' :: rest => some rest
  | '\r' :: '\n' :: rest => some rest
  | _ => none

def skipComment? (s : List Char) : Option (List Char) :=
  if s.head? == some '#' then
    let body := s.takeWhile fun c => c != '\n'
    let kept := if body.getLast? == some '\r' then body.dropLast else body
    if kept.any isControl then none else some (s.drop kept.length)
  else some s

def skipAll? : Nat → List Char → Option (List Char)
  | 0, _ => none
  | fuel + 1, s =>
    match skipComment? (skipGaps s) with
    | none => none
    | some t =>
      match lineEnd? t with
      | some rest => skipAll? fuel rest
      | none => some t

def hexDigits? (cs : List Char) : Option Nat :=
  cs.foldl (fun v c => v.bind fun n =>
    if '0' ≤ c ∧ c ≤ '9' then some (n * 16 + (c.toNat - 48))
    else if 'a' ≤ c ∧ c ≤ 'f' then some (n * 16 + (c.toNat - 87))
    else if 'A' ≤ c ∧ c ≤ 'F' then some (n * 16 + (c.toNat - 55))
    else none) (some 0)

def escape? : List Char → Option (Char × List Char)
  | [] => none
  | c :: rest =>
    let coded (width : Nat) : Option (Char × List Char) :=
      match if rest.length < width then none else hexDigits? (rest.take width) with
      | some n => if n.isValidChar then some (Char.ofNat n, rest.drop width) else none
      | none => none
    match c with
    | 'b' => some (Char.ofNat 8, rest)
    | 't' => some ('\t', rest)
    | 'n' => some ('\n', rest)
    | 'f' => some (Char.ofNat 12, rest)
    | 'r' => some ('\r', rest)
    | '"' => some ('"', rest)
    | '\\' => some ('\\', rest)
    | 'u' => coded 4
    | 'U' => coded 8
    | _ => none

def string? (quote : Char) : Nat → List Char → List Char → Option (List Char × List Char)
  | 0, _, _ => none
  | _ + 1, _, [] => none
  | fuel + 1, acc, c :: rest =>
    if c == quote then some (acc, rest)
    else if isControl c then none
    else if c == '\\' && quote == '"' then
      match escape? rest with
      | some (d, after) => string? quote fuel (d :: acc) after
      | none => none
    else string? quote fuel (c :: acc) rest

def joined? (s : List Char) : Option (List Char) :=
  (lineEnd? (skipGaps s)).map fun rest => rest.dropWhile fun c => isGap c || c == '\n' || c == '\r'

/-- A string over lines after its opening quotes. Up to two more quotes may stand at its end. -/
def longString? (quote : Char) : Nat → List Char → List Char → Option (List Char × List Char)
  | 0, _, _ => none
  | _ + 1, _, [] => none
  | fuel + 1, acc, c :: rest =>
    let quotes := ((c :: rest).takeWhile (· == quote)).length
    if 3 ≤ quotes then
      if 5 < quotes then none
      else some (List.replicate (quotes - 3) quote ++ acc, (c :: rest).drop quotes)
    else
      match lineEnd? (c :: rest) with
      | some after => longString? quote fuel ('\n' :: (if c == '\r' then '\r' :: acc else acc)) after
      | none =>
        if isControl c then none
        else if c == '\\' && quote == '"' then
          match joined? rest with
          | some after => longString? quote fuel acc after
          | none =>
            match escape? rest with
            | some (d, after) => longString? quote fuel (d :: acc) after
            | none => none
        else longString? quote fuel (c :: acc) rest

def isBareKey (c : Char) : Bool := c.isAlphanum || c == '_' || c == '-'

def keyPart? (s : List Char) : Option (Bytes × List Char) :=
  match s with
  | [] => none
  | c :: rest =>
    if c == '"' || c == '\'' then
      (string? c (rest.length + 1) [] rest).map fun r => (ofChars r.1.reverse, r.2)
    else
      let name := s.takeWhile isBareKey
      if name.isEmpty then none else some (ofChars name, s.drop name.length)

def key? : Nat → List Char → Option (List Bytes × List Char)
  | 0, _ => none
  | fuel + 1, s =>
    match keyPart? (skipGaps s) with
    | none => none
    | some (part, rest) =>
      match skipGaps rest with
      | '.' :: more => (key? fuel more).map fun r => (part :: r.1, r.2)
      | after => some ([part], after)

/-! Numbers, dates and times. -/

def plainDigits? (isDigit : Char → Bool) : List Char → Option (List Char)
  | [] => none
  | [c] => if isDigit c then some [c] else none
  | c :: '_' :: rest => if isDigit c then (plainDigits? isDigit rest).map (c :: ·) else none
  | c :: rest => if isDigit c then (plainDigits? isDigit rest).map (c :: ·) else none

/-- Decimal digits that begin with a zero only if there is no other. -/
def wholeDigits? (cs : List Char) : Option (List Char) :=
  if 1 < cs.length && cs.head? == some '0' then none else plainDigits? Char.isDigit cs

def fits (n : Int) : Option Data := if smallest ≤ n ∧ n ≤ largest then some (.int n) else none

def integer? (cs : List Char) : Option Data :=
  let based (base : Nat) (digits : List Char) (isDigit : Char → Bool) : Option Data :=
    (plainDigits? isDigit digits).bind fun ds => (hexDigits? ds).bind fun _ =>
      fits (ds.foldl (fun v c => v * base + ((hexDigits? [c]).getD 0 : Nat)) 0)
  match cs with
  | '0' :: 'x' :: ds => based 16 ds fun c => (hexDigits? [c]).isSome
  | '0' :: 'o' :: ds => based 8 ds fun c => '0' ≤ c ∧ c ≤ '7'
  | '0' :: 'b' :: ds => based 2 ds fun c => c == '0' || c == '1'
  | _ =>
    let negative := cs.head? == some '-'
    let digits := if negative || cs.head? == some '+' then cs.tail else cs
    (wholeDigits? digits).bind fun ds => fits (if negative then -natOf (ofChars ds) else natOf (ofChars ds))

/-- A fraction: digits with a point or an exponent, and digits on both sides of the point. -/
def fraction? (cs : List Char) : Option Data :=
  let signed := cs.head? == some '-' || cs.head? == some '+'
  let body := if signed then cs.tail else cs
  let whole := body.takeWhile fun c => c != '.' && c != 'e' && c != 'E'
  let rest := body.drop whole.length
  let places := if rest.head? == some '.' then
    rest.tail.takeWhile fun c => c != 'e' && c != 'E' else []
  let power := if rest.head? == some '.' then rest.tail.drop places.length else rest
  let powerDigits := match power.tail with
    | '-' :: ds => ds
    | '+' :: ds => ds
    | ds => ds
  if rest.isEmpty || (wholeDigits? whole).isNone ||
      (rest.head? == some '.' && (plainDigits? Char.isDigit places).isNone) ||
      (!power.isEmpty && (plainDigits? Char.isDigit powerDigits).isNone) then none
  else ((real? (ofChars (cs.filter (· != '_')))).bind Real.toFloat?).map .float

def two? (most : Nat) : List Char → Option (Nat × List Char)
  | a :: b :: rest =>
    let n := (a.toNat - 48) * 10 + (b.toNat - 48)
    if a.isDigit && b.isDigit && n ≤ most then some (n, rest) else none
  | _ => none

def isLeap (y : Nat) : Bool := y % 4 = 0 && (y % 100 ≠ 0 || y % 400 = 0)

def daysIn (y m : Nat) : Nat :=
  if m = 2 then if isLeap y then 29 else 28
  else if m = 4 || m = 6 || m = 9 || m = 11 then 30 else 31

def date? (cs : List Char) : Option (List Char) := do
  let (century, s) ← two? 99 cs
  let (year, s) ← two? 99 s
  let (month, s) ← if s.head? == some '-' then two? 12 s.tail else none
  let (day, s) ← if s.head? == some '-' then two? 31 s.tail else none
  if month = 0 || day = 0 || daysIn (century * 100 + year) month < day then none
  some s

def clock? (cs : List Char) : Option (List Char × List Char) := do
  let (_, s) ← two? 23 cs
  let (_, s) ← if s.head? == some ':' then two? 59 s.tail else none
  let (_, s) ← if s.head? == some ':' then two? 59 s.tail else none
  match s with
  | '.' :: rest =>
    let places := rest.takeWhile Char.isDigit
    if places.isEmpty then none else some (places.take 9, rest.drop places.length)
  | _ => some ([], s)

def zone? : List Char → Option (List Char)
  | ['Z'] => some " +0000 UTC".toList
  | ['z'] => some " +0000 UTC".toList
  | sign :: rest => do
    let (h, s) ← two? 23 rest
    let (m, s) ← if s.head? == some ':' then two? 59 s.tail else none
    if !s.isEmpty || !(sign == '+' || sign == '-') then none
    let shown := sign :: (rest.take 2 ++ (rest.drop 3).take 2)
    some (' ' :: (if h = 0 && m = 0 then '+' :: shown.tail else shown) ++ ' ' :: shown)
  | [] => none

/-- A date, a time or both. With a zone, zeros at the end of a fraction are not shown. -/
def time? (cs : List Char) : Option Data :=
  let pointed (places : List Char) : List Char := if places.isEmpty then [] else '.' :: places
  match date? cs with
  | some [] => some (.time (ofChars cs))
  | some (sep :: rest) =>
    match if sep == 'T' || sep == 't' || sep == ' ' then clock? rest else none with
    | none => none
    | some (places, []) =>
      some (.time (ofChars (cs.take 10 ++ 'T' :: rest.take 8 ++ pointed places)))
    | some (places, zone) =>
      let kept := (places.reverse.dropWhile (· == '0')).reverse
      (zone? zone).map fun z =>
        .time (ofChars (cs.take 10 ++ ' ' :: rest.take 8 ++ pointed kept ++ z))
  | none =>
    match clock? cs with
    | some (places, []) => some (.time (ofChars (cs.take 8 ++ pointed places)))
    | _ => none

def word? (cs : List Char) : Option Data :=
  let unsigned := if cs.head? == some '-' || cs.head? == some '+' then cs.tail else cs
  let infinite : Float := 1.0 / 0.0
  if cs == "true".toList then some (.bool true)
  else if cs == "false".toList then some (.bool false)
  else if unsigned == "inf".toList then
    some (.float (if cs.head? == some '-' then -infinite else infinite))
  else if unsigned == "nan".toList then some (.float (0.0 / 0.0))
  else ((time? cs).orElse fun _ => integer? cs).orElse fun _ => fraction? cs

/-- The characters of such a word. A blank may stand between a date and a time. -/
def wordText (s : List Char) : List Char :=
  let isPart (c : Char) : Bool := !(isGap c || ",]\x7d#\n\r".toList.contains c)
  let first := s.takeWhile isPart
  match s.drop first.length with
  | ' ' :: c :: rest =>
    if (date? first) == some [] && c.isDigit then first ++ ' ' :: (c :: rest).takeWhile isPart
    else first
  | _ => first

/-! Tables. -/

/-- What stands under a key. A table is closed once it is defined as a whole. -/
inductive Item where
  | value (d : Data)
  | table (closed : Bool) (entries : List (Bytes × Item))
  | tables (ts : List (List (Bytes × Item)))

abbrev Table := List (Bytes × Item)

namespace Item

mutual

def data : Item → Data
  | .value d => d
  | .table _ es => .map (dataOf es)
  | .tables ts => .list (dataOfAll ts)

def dataOf : List (Bytes × Item) → List (Bytes × Data)
  | [] => []
  | (k, i) :: es => (k, i.data) :: dataOf es

def dataOfAll : List (List (Bytes × Item)) → List Data
  | [] => []
  | t :: ts => dataOfAll ts ++ [.map (dataOf t)]

end

end Item

def find? (t : Table) (key : Bytes) : Option Item := (t.find? fun e => e.1 == key).map (·.2)

def put (t : Table) (key : Bytes) (i : Item) : Table :=
  if t.any fun e => e.1 == key then t.map fun e => if e.1 == key then (key, i) else e
  else t ++ [(key, i)]

def below? (change : Table → Option Table) : List Bytes → Table → Option Table
  | [], t => change t
  | k :: ks, t =>
    match find? t k with
    | none => (below? change ks []).map fun u => put t k (.table false u)
    | some (.table closed es) => (below? change ks es).map fun u => put t k (.table closed u)
    | some (.tables (l :: ls)) => (below? change ks l).map fun u => put t k (.tables (u :: ls))
    | some _ => none

def openTable? (key : Bytes) (t : Table) : Option Table :=
  match find? t key with
  | none => some (put t key (.table true []))
  | some (.table false es) => some (put t key (.table true es))
  | some _ => none

def openNext? (key : Bytes) (t : Table) : Option Table :=
  match find? t key with
  | none => some (put t key (.tables [[]]))
  | some (.tables ts) => some (put t key (.tables ([] :: ts)))
  | some _ => none

/-- An entry under a dotted key. The tables on the way may not be closed. -/
def assign? (d : Data) : List Bytes → Table → Option Table
  | [], _ => none
  | [k], t => if (find? t k).isSome then none else some (put t k (.value d))
  | k :: ks, t =>
    match find? t k with
    | none => (assign? d ks []).map fun u => put t k (.table false u)
    | some (.table false es) => (assign? d ks es).map fun u => put t k (.table false u)
    | some _ => none

/-- The tables that dotted keys have made are closed at the next header. -/
def closeAll : Nat → Table → Table
  | 0, t => t
  | fuel + 1, t => t.map fun e =>
    match e.2 with
    | .table _ es => (e.1, .table true (closeAll fuel es))
    | i => (e.1, i)

/-! Values and lines. -/

mutual

def value? : Nat → List Char → Option (Data × List Char)
  | 0, _ => none
  | fuel + 1, s =>
    match s with
    | [] => none
    | c :: rest =>
      if c == '"' || c == '\'' then
        if rest.take 2 == [c, c] then
          let body := rest.drop 2
          let body := (lineEnd? body).getD body
          (longString? c (body.length + 1) [] body).map fun r => (.text (ofChars r.1.reverse), r.2)
        else (string? c (rest.length + 1) [] rest).map fun r => (.text (ofChars r.1.reverse), r.2)
      else if c == '[' then items? fuel [] rest
      else if c == Char.ofNat 0x7B then
        match skipGaps rest with
        | b :: after => if b == Char.ofNat 0x7D then some (.map [], after)
            else members? fuel [] (b :: after)
        | [] => none
      else
        let w := wordText s
        (word? w).map fun d => (d, s.drop w.length)

/-- The items of a list, on any number of lines; a comma may stand behind the last. -/
def items? : Nat → List Data → List Char → Option (Data × List Char)
  | 0, _, _ => none
  | fuel + 1, acc, s =>
    match skipAll? (s.length + 1) s with
    | none => none
    | some (']' :: after) => some (.list acc, after)
    | some t =>
      match value? fuel t with
      | none => none
      | some (d, u) =>
        match skipAll? (u.length + 1) u with
        | some (',' :: after) => items? fuel (acc ++ [d]) after
        | some (']' :: after) => some (.list (acc ++ [d]), after)
        | _ => none

def members? : Nat → Table → List Char → Option (Data × List Char)
  | 0, _, _ => none
  | fuel + 1, acc, s =>
    match entry? fuel s with
    | none => none
    | some (key, d, t) =>
      match assign? d key acc, skipGaps t with
      | some table, ',' :: after => members? fuel table after
      | some table, c :: after =>
        if c == Char.ofNat 0x7D then some (.map (Item.dataOf table), after) else none
      | _, _ => none

def entry? : Nat → List Char → Option (List Bytes × Data × List Char)
  | 0, _ => none
  | fuel + 1, s =>
    match key? (s.length + 1) s with
    | some (key, '=' :: rest) => (value? fuel (skipGaps rest)).map fun r => (key, r.1, r.2)
    | _ => none

end

/-- A header: its key, whether it begins one of several tables, and what follows. -/
def header? (s : List Char) : Option (List Bytes × Bool × List Char) :=
  match s with
  | '[' :: '[' :: rest =>
    match key? (rest.length + 1) rest with
    | some (key, ']' :: ']' :: after) => some (key, true, after)
    | _ => none
  | '[' :: rest =>
    match key? (rest.length + 1) rest with
    | some (key, ']' :: after) => some (key, false, after)
    | _ => none
  | _ => none

def lineDone? (s : List Char) : Option (List Char) :=
  match skipComment? (skipGaps s) with
  | none => none
  | some [] => some []
  | some t => lineEnd? t

/-- The lines of a text, from the table that the last header names on. -/
def lines? : Nat → List Bytes → Table → List Char → Option Table
  | 0, _, _, _ => none
  | fuel + 1, here, root, s =>
    match skipAll? (s.length + 1) s with
    | none => none
    | some [] => some root
    | some ('[' :: rest) =>
      match header? ('[' :: rest) with
      | none => none
      | some (key, isNext, after) =>
        let change := (if isNext then openNext? else openTable?) (key.getLast?.getD [])
        match below? (fun t => some (closeAll (s.length + 1) t)) here root, lineDone? after with
        | some closed, some next =>
          match below? change key.dropLast closed with
          | some opened => lines? fuel key opened next
          | none => none
        | _, _ => none
    | some t =>
      match entry? (t.length + 1) t with
      | none => none
      | some (key, d, after) =>
        match below? (assign? d key) here root, lineDone? after with
        | some table, some next => lines? fuel here table next
        | _, _ => none

def entries? (text : Bytes) : Option (List (Bytes × Data)) :=
  let rs := runes text
  if rs.any Rune.broken then none
  else
    let cs := rs.map Rune.char
    (lines? (cs.length + 1) [] [] cs).map Item.dataOf

end SpanGauge.Toml
