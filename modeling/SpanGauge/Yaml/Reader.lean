import SpanGauge.Yaml.Scanner
import SpanGauge.Yaml.Node

/-! From the tokens of a YAML text to its first document. What follows the document is looked at
no further than two tokens ahead. There is no limit on depth or on the size that aliases may give
a document, and a text in another encoding than UTF-8 is refused. -/
namespace SpanGauge.Yaml
open Text

/-- What is left to read, and the nodes with a name; one that is still read has no value. -/
structure Reading where
  tokens : List Token
  anchors : List (Bytes × Option Node) := []
  handles : List (List Char × List Char) := []

namespace Reading

def peek (r : Reading) : Token := r.tokens.head?.getD .broken
def next (r : Reading) : Reading := { r with tokens := r.tokens.tail }
def isAny (r : Reading) (ts : List Token) : Bool := ts.contains r.peek

def enter (r : Reading) (name : Option Bytes) : Reading :=
  match name with
  | some n => { r with anchors := (n, none) :: r.anchors }
  | none => r

def fill (name : Bytes) (n : Node) : List (Bytes × Option Node) → List (Bytes × Option Node)
  | [] => []
  | (m, none) :: as => if m == name then (m, some n) :: as else (m, none) :: fill name n as
  | a :: as => a :: fill name n as

def leave (r : Reading) (name : Option Bytes) (n : Node) : Reading :=
  match name with
  | some m => { r with anchors := fill m n r.anchors }
  | none => r

def longPrefix : List Char := "tag:yaml.org,2002:".toList

/-- The short form of a tag: of a known namespace only its end. A mark alone is no tag. -/
def shortTag (text : List Char) : Bytes :=
  if text == ['!'] then []
  else if longPrefix.isPrefixOf text then Bytes.of "!!" ++ ofChars (text.drop longPrefix.length)
  else ofChars text

def tag? (r : Reading) (handle text : List Char) : Option Bytes :=
  if handle.isEmpty then some (shortTag text)
  else
    match r.handles.find? fun h => h.1 == handle with
    | some (_, start) => some (shortTag (start ++ text))
    | none => none

def properties? (r : Reading) : Option (Option Bytes × Option Bytes × Reading) :=
  match r.peek with
  | .anchor n =>
    let s := r.next
    match s.peek with
    | .tag h t => (s.tag? h t).map fun tag => (some (ofChars n), some tag, s.next)
    | _ => some (some (ofChars n), none, s)
  | .tag h t =>
    match r.tag? h t with
    | none => none
    | some tag =>
      let s := r.next
      match s.peek with
      | .anchor n => some (some (ofChars n), some tag, s.next)
      | _ => some (none, some tag, s)
  | _ => some (none, none, r)

mutual

/-- A node. In a block it may be one, and as a part of a map also a list at its own depth. -/
def node? (inBlock inMap : Bool) : Nat → Reading → Option (Node × Reading)
  | 0, _ => none
  | fuel + 1, r =>
    match r.peek with
    | .alias n =>
      match r.anchors.find? fun a => a.1 == ofChars n with
      | some (_, some target) => some (.alias (ofChars n) target, r.next)
      | _ => none
    | _ =>
      match r.properties? with
      | none => none
      | some (name, tag, s) =>
        let inside := s.enter name
        let t := tag.getD []
        -- without content there is an empty scalar behind a name or a tag
        let bare : Option (Node × Reading) :=
          if name.isSome || tag.isSome then some (.scalar t true [], inside) else none
        let found : Option (Node × Reading) :=
          match s.peek with
          | .scalar plain text => some (.scalar t plain (ofChars text), inside.next)
          | .flowListStart => flowItems? fuel true [] inside.next
          | .flowMapStart => flowEntries? fuel true [] inside.next
          | .item => if inMap then items? true fuel [] inside else bare
          | .listStart => if inBlock then items? false fuel [] inside.next else bare
          | .mapStart => if inBlock then entries? fuel [] inside.next else bare
          | _ => bare
        found.map fun (n, u) => (n, u.leave name n)

/-- The items of a block; in a map the list ends without a mark. -/
def items? (inMap : Bool) : Nat → List Node → Reading → Option (Node × Reading)
  | 0, _, _ => none
  | fuel + 1, acc, r =>
    match r.peek with
    | .item =>
      let s := r.next
      if s.isAny ([.item, .blockEnd] ++ if inMap then [.key, .value] else []) then
        items? inMap fuel (acc ++ [.empty]) s
      else
        match node? true false fuel s with
        | some (n, t) => items? inMap fuel (acc ++ [n]) t
        | none => none
    | .blockEnd => some (.list acc, if inMap then r else r.next)
    | _ => if inMap then some (.list acc, r) else none

def part? : Nat → Reading → Option (Node × Reading)
  | 0, _ => none
  | fuel + 1, r =>
    if r.isAny [.key, .value, .blockEnd] then some (.empty, r) else node? true true fuel r

def entries? : Nat → List (Node × Node) → Reading → Option (Node × Reading)
  | 0, _, _ => none
  | fuel + 1, acc, r =>
    match r.peek with
    | .key =>
      match part? fuel r.next with
      | none => none
      | some (k, s) =>
        match if s.peek = .value then part? fuel s.next else some (.empty, s) with
        | some (v, t) => entries? fuel (acc ++ [(k, v)]) t
        | none => none
    | .blockEnd => some (.map acc, r.next)
    | _ => none

def flowPart? (close : Token) : Nat → Reading → Option (Node × Reading)
  | 0, _ => none
  | fuel + 1, r =>
    if r.isAny [.flowEntry, close] then some (.empty, r) else node? false false fuel r

def flowItems? : Nat → Bool → List Node → Reading → Option (Node × Reading)
  | 0, _, _, _ => none
  | fuel + 1, isFirst, acc, r =>
    if r.peek = .flowListEnd then some (.list acc, r.next)
    else if !isFirst && r.peek ≠ .flowEntry then none
    else
      let s := if isFirst then r else r.next
      match s.peek with
      | .flowListEnd => some (.list acc, s.next)
      | .key =>
        -- one entry of a map, without its braces
        let t := s.next
        let key := if t.isAny [.value, .flowEntry, .flowListEnd] then some (.empty, t.next)
          else node? false false fuel t
        match key with
        | none => none
        | some (k, u) =>
          match if u.peek = .value then flowPart? .flowListEnd fuel u.next else some (.empty, u) with
          | some (v, w) => flowItems? fuel false (acc ++ [.map [(k, v)]]) w
          | none => none
      | _ =>
        match node? false false fuel s with
        | some (n, t) => flowItems? fuel false (acc ++ [n]) t
        | none => none

def flowEntries? : Nat → Bool → List (Node × Node) → Reading → Option (Node × Reading)
  | 0, _, _, _ => none
  | fuel + 1, isFirst, acc, r =>
    if r.peek = .flowMapEnd then some (.map acc, r.next)
    else if !isFirst && r.peek ≠ .flowEntry then none
    else
      let s := if isFirst then r else r.next
      match s.peek with
      | .flowMapEnd => some (.map acc, s.next)
      | .key =>
        let t := s.next
        match if t.peek = .value then some (.empty, t) else flowPart? .flowMapEnd fuel t with
        | none => none
        | some (k, u) =>
          match if u.peek = .value then flowPart? .flowMapEnd fuel u.next else some (.empty, u) with
          | some (v, w) => flowEntries? fuel false (acc ++ [(k, v)]) w
          | none => none
      | _ =>
        match node? false false fuel s with
        | some (k, t) => flowEntries? fuel false (acc ++ [(k, .empty)]) t
        | none => none

end

/-- Past the directives of a document. The version can only be 1.1, and no handle is given
twice. -/
def directives? : Nat → Bool → Reading → Option Reading
  | 0, _, _ => none
  | fuel + 1, versioned, r =>
    match r.peek with
    | .version major minor =>
      if versioned || major ≠ 1 || minor ≠ 1 then none else directives? fuel true r.next
    | .tagPrefix handle text =>
      if r.handles.any fun h => h.1 == handle then none
      else directives? fuel versioned { r.next with handles := (handle, text) :: r.handles }
    | _ => some r

def isBare (r : Reading) : Bool :=
  match r.peek with
  | .version _ _ | .tagPrefix _ _ | .documentStart | .documentEnd | .streamEnd => true
  | _ => false

def document? (ts : List Token) : Option (Option Node) :=
  let fuel := 4 * ts.length + 4
  match directives? fuel false { tokens := ts } with
  | none => none
  | some r =>
    let given := r.tokens.length < ts.length
    let usual := [("!".toList, "!".toList), ("!!".toList, longPrefix)]
    let r := { r with handles := r.handles ++ usual }
    if r.peek = .streamEnd && !given then some none
    else
      let found : Option (Node × Reading) :=
        if r.peek = .documentStart then
          if r.next.isBare then some (.empty, r.next) else node? true false fuel r.next
        else if given then none
        else node? true false fuel r
      match found with
      | some (n, s) => if s.tokens.take 3 |>.contains .broken then none else some (some n)
      | none => none

end Reading

def isAllowed (c : Char) : Bool :=
  let n := c.toNat
  n = 9 || n = 10 || n = 13 || (32 ≤ n && n ≤ 126) || n = 0x85 || (0xA0 ≤ n && n ≠ 0xFFFE && n ≠ 0xFFFF)

def entries? (s : Bytes) : Option (List (Bytes × Data)) :=
  let rs := runes s
  let body := rs.map Rune.char
  let cs := if body.head? == some (Char.ofNat 0xFEFF) then body.tail else body
  if rs.any Rune.broken || !body.all isAllowed then none
  else
    match Reading.document? (tokens cs) with
    | none => none
    | some none => some []
    | some (some n) =>
      match n with
      | .map _ => n.entries? true
      | _ =>
        match n.data? with
        | some .null => some []
        | _ => none

end SpanGauge.Yaml
