import SpanGauge.Text.Integer

/-! Words of 64 bits. A number that is one stays as it is, and one beyond the largest comes out
negative. -/
namespace SpanGauge

def IsWord (n : Int) : Prop := Text.smallest ≤ n ∧ n ≤ Text.largest

instance (n : Int) : Decidable (IsWord n) := inferInstanceAs (Decidable (_ ∧ _))

theorem wrap_isWord (n : Int) : IsWord (Text.wrap n) := by
  simp only [IsWord, Text.wrap, Int.bmod, Text.smallest, Text.largest]
  split <;> omega

theorem wrap_of_isWord {n : Int} (word : IsWord n) : Text.wrap n = n := by
  simp only [IsWord, Text.smallest, Text.largest] at word
  simp only [Text.wrap, Int.bmod]
  split <;> omega

theorem wrap_le {n : Int} (least : Text.smallest ≤ n) : Text.wrap n ≤ n := by
  simp only [Text.smallest] at least
  simp only [Text.wrap, Int.bmod]
  split <;> omega

theorem wrap_neg {n : Int} (beyond : Text.largest < n) (bound : n ≤ 2 * Text.largest + 1) :
    Text.wrap n < 0 := by
  simp only [Text.largest] at beyond bound
  simp only [Text.wrap, Int.bmod]
  split <;> omega

end SpanGauge
