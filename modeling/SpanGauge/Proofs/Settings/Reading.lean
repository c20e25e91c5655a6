import SpanGauge.Data
import SpanGauge.Proofs.Text.Lines
import SpanGauge.Proofs.Text.Number
import SpanGauge.Proofs.Text.Words

/-! Where the lenient and the strict reading of a value agree. A number or a yes or no that the
strict reading takes is the same in the lenient one. A text is not where yes and no are given
for it, nor a list where white space and commas part a text in different ways. -/
namespace SpanGauge

namespace Data

open Text

variable {d : Data} {s : Bytes}

theorem dropZeroPlaces_of_no_point (none : byte '.' ∉ s) : dropZeroPlaces s = s := by
  rw [dropZeroPlaces]
  refine if_neg fun places => none ?_
  rw [Bool.and_eq_true, beq_iff_eq] at places
  exact List.mem_reverse.mp (List.mem_of_mem_drop (List.mem_of_mem_head? places.2))

theorem toInt_of_int? {n : Int} (read : d.int? = some n) : d.toInt = n := by
  cases d with
  | int m => exact Option.some.inj read
  | float x => exact Option.some.inj read
  | bool b => exact Option.some.inj read
  | text s =>
    rw [int?] at read
    split at read
    · rename_i empty
      rw [List.isEmpty_iff] at empty
      subst empty
      exact Option.some.inj read
    · cases whole : integer s with
      | error f => rw [whole] at read; cases read
      | ok m =>
        rw [whole] at read
        rw [toInt, dropZeroPlaces_of_no_point (integer_point whole), whole]
        exact Option.some.inj read
  | null | time _ | list _ | map _ => cases read

theorem toBool_of_bool? {b : Bool} (read : d.bool? = some b) : d.toBool = b := by
  cases d with
  | bool a => exact Option.some.inj read
  | int m => exact Option.some.inj read
  | float x => exact Option.some.inj read
  | text s =>
    rw [bool?] at read
    split at read
    · rename_i empty
      rw [List.isEmpty_iff] at empty
      subst empty
      exact Option.some.inj read
    · rw [toBool, read]
      rfl
  | null | time _ | list _ | map _ => cases read

def isBool : Data → Bool
  | .bool _ => true
  | _ => false

theorem toText_eq_iff {t : Bytes} (read : d.text? = some t) : d.toText = t ↔ d.isBool = false := by
  cases d with
  | bool b =>
    have apart : ∀ b : Bool, Bytes.of (if b then "true" else "false") ≠
        Bytes.of (if b then "1" else "0") := by decide
    rw [← Option.some.inj read]
    exact iff_of_false (apart b) Bool.noConfusion
  | text s => exact iff_of_true (Option.some.inj read) rfl
  | int n => exact iff_of_true (Option.some.inj read) rfl
  | float x => exact iff_of_true (Option.some.inj read) rfl
  | null => exact iff_of_true (Option.some.inj read) rfl
  | time _ | list _ | map _ => cases read

/-- The value makes the same list whichever way it is read: a list has no yes or no among its
items, and a text is empty or one word without a comma. -/
def Listed : Data → Prop
  | .list items => ∀ d ∈ items, d.isBool = false
  | .text s => s = [] ∨ words s = [s] ∧ byte ',' ∉ s
  | .null => False
  | .bool _ => False
  | _ => True

theorem words_eq_split_iff (s : Bytes) :
    words s = Bytes.splitAt (byte ',') s ↔ words s = [s] ∧ byte ',' ∉ s := by
  rw [Bytes.splitAt_eq_splitOn]
  constructor
  · intro same
    have none : byte ',' ∉ s := by
      intro member
      obtain ⟨w, word, inside⟩ := exists_word (by decide) (by decide) member
      rw [same] at word
      exact Bytes.not_mem_of_splitOn word inside
    exact ⟨same.trans (List.splitOn_eq_singleton none), none⟩
  · rintro ⟨one, none⟩
    exact one.trans (List.splitOn_eq_singleton none).symm

theorem map_toText_eq_iff {items : List Data} {ts : List Bytes} (read : items.mapM text? = some ts) :
    items.map toText = ts ↔ ∀ d ∈ items, d.isBool = false := by
  induction items generalizing ts with
  | nil =>
    rw [← Option.some.inj read]
    exact iff_of_true rfl fun d member => absurd member List.not_mem_nil
  | cons d items ih =>
    rw [List.mapM_cons] at read
    simp only [Option.bind_eq_bind, Option.bind_eq_some_iff, Option.pure_def] at read
    obtain ⟨t, first, ts', others, whole⟩ := read
    rw [← Option.some.inj whole, List.map_cons, List.cons.injEq, toText_eq_iff first, ih others,
      List.forall_mem_cons]

theorem toTexts_eq_iff {ts : List Bytes} (read : d.texts? = some ts) : d.toTexts = ts ↔ d.Listed := by
  cases d with
  | list items => exact map_toText_eq_iff read
  | text s =>
    rw [← Option.some.inj read, toTexts]
    by_cases none : s = []
    · subst none
      have empty : words [] = [] := by
        rw [words, runes_nil]
        rfl
      exact iff_of_true empty (.inl rfl)
    · rw [if_neg (by simpa using none), words_eq_split_iff]
      exact (or_iff_right none).symm
  | bool b =>
    have apart : (bool b).toText ≠ _ := (toText_eq_iff (d := .bool b) rfl).not.mpr Bool.noConfusion
    rw [← Option.some.inj read]
    exact iff_of_false (fun same => apart (List.singleton_inj.mp same)) id
  | int n => exact iff_of_true (Option.some.inj read) trivial
  | float x => exact iff_of_true (Option.some.inj read) trivial
  | null =>
    rw [← Option.some.inj read]
    exact iff_of_false (fun same => List.cons_ne_nil _ _ same.symm) id
  | map es =>
    cases es with
    | nil => exact iff_of_true (Option.some.inj read) trivial
    | cons e es => cases read
  | time _ => cases read

end Data

end SpanGauge
