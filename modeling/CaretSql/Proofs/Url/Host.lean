import CaretSql.Url.Host
import Mathlib.Data.List.Basic

/-! Hosts that an address keeps as they are: names of ASCII characters and IPv6 addresses in their
shortest form. None of them holds a character that ends an authority. -/

namespace CaretSql.Url

instance decidableDisjoint (s t : List Char) : Decidable (s.Disjoint t) :=
  decidable_of_iff ((s.all fun c => !t.contains c) = true) (by simp [List.disjoint_left])

namespace Ipv6

/-- the characters of an IPv6 address in its shortest form -/
def digits : List Char := "0123456789abcdef:".toList

theorem mem_toDigits {n : Nat} {c : Char} (h : c ∈ Nat.toDigits 16 n) : c ∈ digits := by
  have hdigit : ∀ d < 16, Nat.digitChar d ∈ digits := by decide
  induction n using Nat.strongRecOn with
  | ind n ih =>
    rw [Nat.toDigits_eq_if (by omega)] at h
    split at h
    · next hlt =>
      rw [List.mem_singleton.mp h]
      exact hdigit n hlt
    · next hge =>
      rcases List.mem_append.mp h with h | h
      · exact ih (n / 16) (by omega) h
      · rw [List.mem_singleton.mp h]
        exact hdigit _ (Nat.mod_lt n (by omega))

theorem mem_joinGroups {gs : List Nat} {c : Char} (h : c ∈ joinGroups gs) : c ∈ digits := by
  induction gs with
  | nil => simp [joinGroups] at h
  | cons g more ih =>
    cases more with
    | nil => exact mem_toDigits (by simpa [joinGroups, hexText] using h)
    | cons next more =>
      have hsplit : joinGroups (g :: next :: more) = hexText g ++ ':' :: joinGroups (next :: more) := by
        simp [joinGroups]
      rw [hsplit, List.mem_append, List.mem_cons] at h
      rcases h with h | rfl | h
      · exact mem_toDigits h
      · decide
      · exact ih h

theorem mem_text {gs : List Nat} {c : Char} (h : c ∈ text gs) : c ∈ digits := by
  unfold text at h
  dsimp only at h
  split at h
  · exact mem_joinGroups h
  · rw [List.mem_append, List.mem_cons, List.mem_cons] at h
    rcases h with h | rfl | rfl | h
    · exact mem_joinGroups h
    · decide
    · decide
    · exact mem_joinGroups h

end Ipv6

namespace Host

variable {h : List Char}

structure Kept (h : List Char) : Prop where
  ne_nil : h ≠ []
  same : opaqueHost h = .ok h

instance (h : List Char) : Decidable (Kept h) :=
  decidable_of_iff (h ≠ [] ∧ opaqueHost h = .ok h) ⟨fun k => ⟨k.1, k.2⟩, fun k => ⟨k.1, k.2⟩⟩

/-- A host is an IPv6 address in brackets or has no character of structure. -/
theorem Kept.cases (k : Kept h) :
    (∃ inner, h = '[' :: inner ++ [']'] ∧ ∀ c ∈ inner, c ∈ Ipv6.digits) ∨
      ∀ c ∈ h, isForbidden c = false := by
  have hsame := k.same
  unfold opaqueHost at hsame
  split at hsame
  · unfold bracketed at hsame
    split at hsame
    · split at hsame
      · next groups _ =>
        exact .inl ⟨Ipv6.text groups, (Except.ok.inj hsame).symm, fun c => Ipv6.mem_text⟩
      · cases hsame
    · cases hsame
  · split at hsame
    · cases hsame
    · next hnone =>
      refine .inr fun c hc => ?_
      rw [List.any_eq_true] at hnone
      exact Bool.eq_false_iff.mpr fun hforbidden => hnone ⟨c, hc, hforbidden⟩

/-- the characters that structure an address but for those of ports and IPv6 addresses -/
def outside : List Char := "\t\n\r /?#@".toList

theorem Kept.disjoint (k : Kept h) : h.Disjoint outside := by
  rcases k.cases with ⟨inner, rfl, hinner⟩ | hall
  · have hdigits : ('[' :: Ipv6.digits ++ [']']).Disjoint outside := by decide
    refine List.disjoint_of_subset_left ?_ hdigits
    intro c hc
    simp only [List.cons_append, List.mem_cons, List.mem_append, List.not_mem_nil, or_false] at hc ⊢
    exact hc.imp id (Or.imp_left (hinner c))
  · have hsub : outside ⊆ "\x00\t\n\r #/:<>?@[\\]^|".toList := by decide
    rw [List.disjoint_left]
    intro c hc hmem
    have hforbidden : isForbidden c = true := List.contains_iff_mem.mpr (hsub hmem)
    rw [hall c hc] at hforbidden
    cases hforbidden

end Host

end CaretSql.Url
