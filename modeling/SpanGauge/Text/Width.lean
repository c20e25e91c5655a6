import SpanGauge.Text.Property

/-! Terminal cells. Characters that combine are measured together as one cluster,
and escape sequences take no cells. -/
namespace SpanGauge.Text

inductive Joining where
  | carriage | feed | control | extend | joiner | spacing | prepended | flag
  | leading | vowel | trailing | leadingVowel | leadingVowelTrailing
  | picture
  | other
  deriving DecidableEq, Repr

def joining (c : Char) : Joining :=
  let n := c.toNat
  if n = 13 then .carriage
  else if n = 10 then .feed
  else if n = 0x200D then .joiner
  else if within controlRanges n then .control
  else if n < 0xA9 then .other
  else if within extendRanges n then .extend
  else if 0x1F1E6 ≤ n && n ≤ 0x1F1FF then .flag
  else if within prependRanges n then .prepended
  else if within spacingRanges n then .spacing
  else if (0x1100 ≤ n && n ≤ 0x115F) || (0xA960 ≤ n && n ≤ 0xA97C) then .leading
  else if (0x1160 ≤ n && n ≤ 0x11A7) || (0xD7B0 ≤ n && n ≤ 0xD7C6) then .vowel
  else if (0x11A8 ≤ n && n ≤ 0x11FF) || (0xD7CB ≤ n && n ≤ 0xD7FB) then .trailing
  else if 0xAC00 ≤ n && n ≤ 0xD7A3 then
    if (n - 0xAC00) % 28 = 0 then .leadingVowel else .leadingVowelTrailing
  else if within pictureRanges n then .picture
  else .other

def charCells (c : Char) : Nat :=
  match joining c with
  | .carriage | .feed | .control | .extend | .joiner => 0
  | .flag => 2
  | .picture => if within emojiRanges c.toNat then 2 else 1
  | _ =>
    if c.toNat = 0x2E3A then 3 else if c.toNat = 0x2E3B then 4
    else if within wideRanges c.toNat then 2 else 1

structure Cluster where
  last : Joining
  picturing : Bool
  /-- Such a run with a joiner at its end. -/
  pictureJoined : Bool
  oddFlags : Bool

def Cluster.start (j : Joining) : Cluster := ⟨j, j = .picture, false, j = .flag⟩

def Cluster.takes (k : Cluster) (j : Joining) : Bool :=
  match k.last, j with
  | .carriage, .feed => true
  | .carriage, _ | .feed, _ | .control, _ => false
  | _, .carriage | _, .feed | _, .control => false
  | _, .extend | _, .joiner | _, .spacing => true
  | .prepended, _ => true
  | .leading, .leading | .leading, .vowel | .leading, .leadingVowel
  | .leading, .leadingVowelTrailing => true
  | .leadingVowel, .vowel | .leadingVowel, .trailing | .vowel, .vowel | .vowel, .trailing => true
  | .leadingVowelTrailing, .trailing | .trailing, .trailing => true
  | .flag, .flag => k.oddFlags
  | .joiner, .picture => k.pictureJoined
  | _, _ => false

def Cluster.push (k : Cluster) (j : Joining) : Cluster :=
  { last := j
    picturing := j = .picture || (k.picturing && j = .extend)
    pictureJoined := j = .joiner && k.picturing
    oddFlags := j = .flag && !(k.last = .flag && k.oddFlags) }

def clusterRest (head : Joining) : Cluster → Nat → List Rune → Nat × List Rune
  | _, w, [] => (w, [])
  | k, w, r :: rs =>
    let j := joining r.char
    if k.takes j then
      let w' :=
        if head = .picture then
          if r.char.toNat = 0xFE0E then 1 else if r.char.toNat = 0xFE0F then 2 else w
        else if head = .flag || head = .leading then w
        else w + charCells r.char
      clusterRest head (k.push j) w' rs
    else (w, r :: rs)

inductive Escape where
  | ground
  | escape
  | intermediate
  | control
  | string
  deriving DecidableEq, Repr

def Escape.step (e : Escape) (b : UInt8) : Escape :=
  if b == 0x18 || b == 0x1A then .ground
  else if b == 0x1B then .escape
  else if b == 0x9C then .ground
  else
    match e with
    | .string => if b == 0x07 then .ground else .string
    | e =>
      if b == 0x90 || b == 0x98 || b == 0x9D || b == 0x9E || b == 0x9F then .string
      else if b == 0x9B then .control
      else if b ≥ 0x80 then .ground
      else
        match e with
        | .ground => .ground
        | .escape =>
          if b < 0x20 || b == 0x7F then .escape
          else if b < 0x30 then .intermediate
          else if b == byte '[' then .control
          else if b == byte 'P' || b == byte 'X' || b == byte '^' || b == byte '_' || b == byte ']'
          then .string
          else .ground
        | .intermediate =>
          if b < 0x30 || b == 0x7F then .intermediate else .ground
        | .control => if b < 0x40 || b == 0x7F then .control else .ground
        | .string => .string

theorem clusterRest_length (head : Joining) (k : Cluster) (w : Nat) (rs : List Rune) :
    (clusterRest head k w rs).2.length ≤ rs.length := by
  induction rs generalizing k w with
  | nil => simp [clusterRest]
  | cons r rs ih =>
    simp only [clusterRest]
    split
    · exact Nat.le_succ_of_le (ih _ _)
    · simp

def cellsFrom (e : Escape) (w : Nat) (rs : List Rune) : Nat :=
  match rs with
  | [] => w
  | r :: rest =>
    let b := r.bytes.headD 0
    if e ≠ .string && 0xC2 ≤ b && b ≤ 0xF4 then
      let j := joining r.char
      let c := clusterRest j (Cluster.start j) (charCells r.char) rest
      cellsFrom .ground (w + c.1) c.2
    else
      let shown := e = .ground && 0x20 ≤ b && b ≤ 0x7E
      cellsFrom (if 0x80 ≤ b && e = .string && r.bytes.length > 1 then e else e.step b)
        (if shown then w + 1 else w) rest
termination_by rs.length
decreasing_by
  · have := clusterRest_length (joining r.char) (Cluster.start (joining r.char))
      (charCells r.char) rest
    simp only [List.length_cons]
    omega
  · simp only [List.length_cons]
    omega

def lineCells (s : Bytes) : Nat := cellsFrom .ground 0 (runes s)

def cells (s : Bytes) : Nat := ((Bytes.splitAt (byte '\n') s).map lineCells).foldl max 0

/-- Characters without a cell of their own when each stands alone: formats and
combining marks. -/
def silentRanges : List (Nat × Nat) :=
  [(0x00, 0x1F), (0x7F, 0x9F), (0xAD, 0xAD), (0x300, 0x36F), (0x483, 0x487), (0x70F, 0x70F),
   (0x7EB, 0x7F3), (0xC00, 0xC00), (0xC04, 0xC04), (0xD00, 0xD01), (0x135D, 0x135F),
   (0x180B, 0x180E), (0x1A7F, 0x1A7F), (0x1AB0, 0x1ACE), (0x1B6B, 0x1B73), (0x1DC0, 0x1DFF),
   (0x200B, 0x200F), (0x2028, 0x202E), (0x206A, 0x206F), (0x20D0, 0x20F0), (0x2CEF, 0x2CF1),
   (0x2DE0, 0x2DFF), (0x3099, 0x309A), (0xA66F, 0xA672), (0xA674, 0xA67D), (0xA69E, 0xA69F),
   (0xA6F0, 0xA6F1), (0xA8E0, 0xA8F1), (0xFE20, 0xFE2F), (0xFEFF, 0xFEFF), (0xFFF9, 0xFFFB),
   (0xFFFE, 0xFFFF), (0x101FD, 0x101FD), (0x10376, 0x1037A), (0x10EAB, 0x10EAC),
   (0x10F46, 0x10F50), (0x10F82, 0x10F85), (0x11300, 0x11301), (0x1133B, 0x1133C),
   (0x11366, 0x1136C), (0x11370, 0x11374), (0x16AF0, 0x16AF4), (0x1CF00, 0x1CF2D),
   (0x1CF30, 0x1CF46), (0x1D165, 0x1D169), (0x1D16D, 0x1D172), (0x1D17B, 0x1D182),
   (0x1D185, 0x1D18B), (0x1D1AA, 0x1D1AD), (0x1D242, 0x1D244), (0x1E000, 0x1E006),
   (0x1E008, 0x1E018), (0x1E01B, 0x1E021), (0x1E023, 0x1E024), (0x1E026, 0x1E02A),
   (0x1E08F, 0x1E08F), (0x1E8D0, 0x1E8D6)]

/-- The cells of a character that is measured without its neighbours. -/
def loneCells (c : Char) : Nat :=
  if within silentRanges c.toNat then 0 else if within wideRanges c.toNat then 2 else 1

end SpanGauge.Text
