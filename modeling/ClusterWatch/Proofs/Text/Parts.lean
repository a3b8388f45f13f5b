import ClusterWatch.Text.Split
import Mathlib.Data.List.Basic

/-!
# Parts between separators

A text falls into parts at a separator in one way only.
-/

namespace ClusterWatch.Text

/-- Texts that end in a part without a separator agree in that part and in what is before it. -/
theorem append_cons_inj {a b s t : List Char} {separator : Char} (left : separator ∉ s)
    (right : separator ∉ t) : a ++ separator :: s = b ++ separator :: t ↔ a = b ∧ s = t := by
  constructor
  · intro same
    rcases List.append_eq_append_iff.mp same with ⟨between, rfl, split⟩ | ⟨between, rfl, split⟩
    · cases between with
      | nil => exact ⟨(List.append_nil a).symm, (List.cons.inj split).2⟩
      | cons c between =>
          obtain ⟨rfl, rfl⟩ := List.cons.inj split
          simp at left
    · cases between with
      | nil => exact ⟨List.append_nil b, (List.cons.inj split).2.symm⟩
      | cons c between =>
          obtain ⟨rfl, rfl⟩ := List.cons.inj split
          simp at right
  · rintro ⟨rfl, rfl⟩
    rfl

/-- Texts that begin with a part without a separator agree in that part and in what is after it. -/
theorem append_cons_inj_left {a b s t : List Char} {separator : Char} (left : separator ∉ a)
    (right : separator ∉ b) : a ++ separator :: s = b ++ separator :: t ↔ a = b ∧ s = t := by
  -- Read backwards, the part without a separator is at the end.
  have backwards := append_cons_inj (a := s.reverse) (b := t.reverse)
    (mt List.mem_reverse.mp left) (mt List.mem_reverse.mp right)
  rw [List.reverse_inj, List.reverse_inj] at backwards
  rw [← List.reverse_inj, and_comm, ← backwards]
  simp

/-- The parts of two texts with a separator between them are those of both. -/
theorem splitAt_append_cons (separator : Char) (a b : List Char) :
    splitAt separator (a ++ separator :: b) = splitAt separator a ++ splitAt separator b := by
  induction a with
  | nil => simp [splitAt, splitBy]
  | cons c a ih =>
      simp only [splitAt] at ih
      by_cases separates : c = separator
      · simp [splitAt, splitBy, separates, ih]
      · obtain ⟨part, parts, split⟩ :=
          List.exists_cons_of_ne_nil (splitBy_ne_nil (· == separator) a)
        simp [splitAt, splitBy, separates, ih, split]

/-- A text without a separator is one part. -/
theorem splitAt_of_not_mem {separator : Char} {a : List Char} (free : separator ∉ a) :
    splitAt separator a = [a] := by
  induction a with
  | nil => rfl
  | cons c a ih =>
      rw [List.mem_cons, not_or] at free
      obtain ⟨other, free⟩ := free
      have ih : splitBy (· == separator) a = [a] := ih free
      simp [splitAt, splitBy, Ne.symm other, ih]

end ClusterWatch.Text
