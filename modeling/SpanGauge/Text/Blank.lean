import SpanGauge.Text.Utf8

/-! White space: the characters with the White_Space property. -/
namespace SpanGauge.Text

def blankRanges : List (Nat × Nat) :=
  [(0x09, 0x0D), (0x20, 0x20), (0x85, 0x85), (0xA0, 0xA0), (0x1680, 0x1680), (0x2000, 0x200A),
   (0x2028, 0x2029), (0x202F, 0x202F), (0x205F, 0x205F), (0x3000, 0x3000)]

def isBlank (c : Char) : Bool := within blankRanges c.toNat

def blankRune (r : Rune) : Bool := isBlank r.char

def trim (s : Bytes) : Bytes :=
  ofRunes ((((runes s).dropWhile blankRune).reverse.dropWhile blankRune).reverse)

def wordsFrom : List Rune → Bytes → List Bytes → List Bytes
  | [], cur, acc => (if cur.isEmpty then acc else cur :: acc).reverse
  | r :: rs, cur, acc =>
    if blankRune r then wordsFrom rs [] (if cur.isEmpty then acc else cur :: acc)
    else wordsFrom rs (cur ++ r.bytes) acc

def words (s : Bytes) : List Bytes := wordsFrom (runes s) [] []

end SpanGauge.Text
