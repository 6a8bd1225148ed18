import CaretSql.Text.Numeral
import Mathlib.Data.List.Induction

/-! What a numeral is, apart from how one is read: decimal digits, with or without a plus sign. The
reader takes exactly these as long as the number is below its bound, and so it takes every number
back that is printed. -/

namespace CaretSql.Text.Numeral

variable {s : List Char} {c : Char} {n bound : Nat}

/-- digits and the number they stand for; in front of another digit they count ten times as much -/
inductive Decimal : List Char → Nat → Prop
  | digit {c : Char} (h : c.isDigit = true) : Decimal [c] (c.toNat - '0'.toNat)
  | snoc {s : List Char} {n : Nat} {c : Char} (before : Decimal s n) (h : c.isDigit = true) :
      Decimal (s ++ [c]) (10 * n + (c.toNat - '0'.toNat))

/-- the texts that stand for a number -/
inductive Spells : List Char → Nat → Prop
  | bare {s : List Char} {n : Nat} (h : Decimal s n) : Spells s n
  | plus {s : List Char} {n : Nat} (h : Decimal s n) : Spells ('+' :: s) n

theorem value_append (s : List Char) (c : Char) :
    value (s ++ [c]) = 10 * value s + (c.toNat - '0'.toNat) := by
  rw [value, List.foldl_append]
  rfl

theorem Decimal.ne_nil (h : Decimal s n) : s ≠ [] := by
  cases h <;> simp

theorem Decimal.isDigit (h : Decimal s n) : ∀ c ∈ s, c.isDigit = true := by
  induction h with
  | digit h => simpa using h
  | snoc before h ih => simpa [or_imp, forall_and] using And.intro ih h

theorem Decimal.value_eq (h : Decimal s n) : value s = n := by
  induction h with
  | digit h => simp [value]
  | snoc before h ih => rw [value_append, ih]

theorem decimal_value (hne : s ≠ []) (hdigit : ∀ c ∈ s, c.isDigit = true) : Decimal s (value s) := by
  induction s using List.reverseRecOn with
  | nil => exact absurd rfl hne
  | append_singleton s c ih =>
    have hc : c.isDigit = true := hdigit c (by simp)
    rw [value_append]
    rcases eq_or_ne s [] with rfl | hs
    · simpa [value] using Decimal.digit hc
    · exact .snoc (ih hs fun d hd => hdigit d (List.mem_append_left _ hd)) hc

theorem decimal_iff : Decimal s n ↔ s ≠ [] ∧ (∀ c ∈ s, c.isDigit = true) ∧ value s = n := by
  constructor
  · intro h
    exact ⟨h.ne_nil, h.isDigit, h.value_eq⟩
  · rintro ⟨hne, hdigit, rfl⟩
    exact decimal_value hne hdigit

def unsigned (s : List Char) : List Char := if s.head? = some '+' then s.drop 1 else s

theorem Decimal.unsigned_eq (h : Decimal s n) : unsigned s = s := by
  refine if_neg fun hplus => ?_
  have hdigit := h.isDigit '+' (List.mem_of_mem_head? hplus)
  exact absurd hdigit (by decide)

theorem spells_iff : Spells s n ↔ Decimal (unsigned s) n := by
  constructor
  · intro h
    cases h with
    | bare h => rwa [h.unsigned_eq]
    | plus h => exact h
  · intro h
    unfold unsigned at h
    split at h
    · next hplus =>
      obtain ⟨rest, rfl⟩ := List.head?_eq_some_iff.mp hplus
      exact .plus h
    · exact .bare h

theorem parse?_eq_some_iff : parse? bound s = some n ↔ Spells s n ∧ n < bound := by
  rw [spells_iff, decimal_iff]
  change (if (unsigned s).isEmpty ∨ !(unsigned s).all Char.isDigit then none
    else if value (unsigned s) < bound then some (value (unsigned s)) else none) = some n ↔ _
  rw [Option.ite_none_left_eq_some, Option.ite_none_right_eq_some, Option.some.injEq]
  constructor
  · rintro ⟨hdigits, hlt, rfl⟩
    simpa [hlt] using hdigits
  · rintro ⟨⟨hne, hdigit, rfl⟩, hlt⟩
    simpa [hlt, hne] using hdigit

theorem isDigit_toDigits (n : Nat) : ∀ c ∈ Nat.toDigits 10 n, c.isDigit = true := fun _ hc =>
  Nat.isDigit_of_mem_toDigits (by omega) (by omega) hc

theorem decimal_toDigits (n : Nat) : Decimal (Nat.toDigits 10 n) n :=
  decimal_iff.mpr ⟨Nat.toDigits_ne_nil, isDigit_toDigits n, Nat.ofDigitChars_ten_toDigits⟩

end CaretSql.Text.Numeral
