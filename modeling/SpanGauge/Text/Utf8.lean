import SpanGauge.Text.Bytes

/-! Characters of a byte string. A byte that begins no well-formed sequence is
read on its own, as the replacement character. -/
namespace SpanGauge.Text

def replacement : Char := Char.ofNat 0xFFFD

structure Rune where
  char : Char
  bytes : Bytes
  deriving DecidableEq, Repr

/-- An ill-formed byte is a replacement character read from a single byte. -/
def Rune.broken (r : Rune) : Bool := r.char == replacement && r.bytes.length == 1

def encode (c : Char) : Bytes := String.utf8EncodeChar c

def isTail (b : UInt8) : Bool := 0x80 ≤ b && b ≤ 0xBF

def secondBounds (b : UInt8) : UInt8 × UInt8 :=
  if b == 0xE0 then (0xA0, 0xBF) else if b == 0xED then (0x80, 0x9F)
  else if b == 0xF0 then (0x90, 0xBF) else if b == 0xF4 then (0x80, 0x8F) else (0x80, 0xBF)

def sextet (b : UInt8) : Nat := b.toNat % 64

def first (b : UInt8) (rest : Bytes) : Rune :=
  let broken : Rune := ⟨replacement, [b]⟩
  if b < 0x80 then ⟨Char.ofNat b.toNat, [b]⟩
  else if b < 0xC2 || b > 0xF4 then broken
  else
    match rest with
    | [] => broken
    | c :: r1 =>
      if c < (secondBounds b).1 || c > (secondBounds b).2 then broken
      else if b < 0xE0 then ⟨Char.ofNat ((b.toNat - 0xC0) * 64 + sextet c), [b, c]⟩
      else
        match r1 with
        | [] => broken
        | d :: r2 =>
          if !isTail d then broken
          else if b < 0xF0 then
            ⟨Char.ofNat ((b.toNat - 0xE0) * 4096 + sextet c * 64 + sextet d), [b, c, d]⟩
          else
            match r2 with
            | [] => broken
            | e :: _ =>
              if !isTail e then broken
              else
                ⟨Char.ofNat ((b.toNat - 0xF0) * 262144 + sextet c * 4096 + sextet d * 64 + sextet e),
                  [b, c, d, e]⟩

def runesFrom (acc : List Rune) : Bytes → List Rune
  | [] => acc.reverse
  | b :: rest =>
    let r := first b rest
    runesFrom (r :: acc) (rest.drop (r.bytes.length - 1))
termination_by s => s.length
decreasing_by simp only [List.length_drop, List.length_cons]; omega

def runes (s : Bytes) : List Rune := runesFrom [] s

def chars (s : Bytes) : List Char := (runes s).map Rune.char

def ofRunes (rs : List Rune) : Bytes := rs.flatMap Rune.bytes
def ofChars (cs : List Char) : Bytes := cs.flatMap encode

def isValid (s : Bytes) : Bool := (runes s).all fun r => !r.broken

def within (table : List (Nat × Nat)) (n : Nat) : Bool :=
  table.any fun r => r.1 ≤ n && n ≤ r.2

end SpanGauge.Text
