import Mathlib.Data.List.TakeWhile

/-! The part of a text before the first occurrence of a character. -/

namespace CaretSql.Text

variable {s : List Char} {c : Char}

theorem bne_of_not_mem (h : c ∉ s) : ∀ d ∈ s, (d != c) = true := by
  intro d hd
  have hne : d ≠ c := fun heq => h (heq ▸ hd)
  simpa using hne

/-- A part of a text ends at the first character it does not hold. -/
theorem takeWhile_ne (h : c ∉ s) (t : List Char) : (s ++ c :: t).takeWhile (· != c) = s := by
  rw [List.takeWhile_append_of_pos (bne_of_not_mem h)]
  simp

theorem takeWhile_ne_all (h : c ∉ s) : s.takeWhile (· != c) = s :=
  List.takeWhile_eq_self_iff.mpr (bne_of_not_mem h)

end CaretSql.Text
