import CaretSql.Proofs.Document.Place

/-! The places of a text: the positions that its offsets have, in the same order. A place stays one
when the text behind it changes, and when text without a newline is inserted anywhere. -/

namespace CaretSql

namespace Position

variable {p : Position} {s t : List Char}

theorem lt_after (p : Position) (h : s ≠ []) : p < p.after s := by
  rw [lt_iff]
  by_cases hs : '\n' ∈ s
  · left
    exact Nat.lt_add_of_pos_right (List.count_pos_iff.mpr hs)
  · right
    have hlen := List.length_pos_iff.mpr h
    have hcount := List.count_eq_zero_of_not_mem hs
    simp only [after, hcount, hs, if_false, Nat.add_zero, true_and]
    omega

/-- What stands before a newline on its line does not matter behind it. -/
theorem after_append_newline (p : Position) (hs : '\n' ∉ s) (ht : '\n' ∈ t) :
    p.after (s ++ t) = p.after t := by
  have hcount := List.count_eq_zero_of_not_mem hs
  simp only [after, List.count_append, hcount, Nat.zero_add, List.mem_append, ht, or_true, if_true,
    lastWidth_append]

theorem after_eq_of_length (p : Position) (hs : '\n' ∉ s) (ht : '\n' ∉ t)
    (h : s.length = t.length) : p.after s = p.after t := by
  have hs' := List.count_eq_zero_of_not_mem hs
  have ht' := List.count_eq_zero_of_not_mem ht
  simp only [after, hs', ht', hs, ht, h, if_false]

end Position

namespace Document

variable {d d' : Document} {p q : Position} {o o' : Nat} {s t u : List Char}

/-- The position of an offset of the text: to its offset and back leads to it again. -/
def IsPlace (d : Document) (p : Position) : Prop := d.positionOf (d.offsetOf p) = p

instance (d : Document) (p : Position) : Decidable (d.IsPlace p) :=
  inferInstanceAs (Decidable (_ = _))

theorem positionOf_min (d : Document) (o : Nat) : d.positionOf (min o d.length) = d.positionOf o := by
  unfold positionOf
  dsimp only
  rw [length, ← List.take_eq_take_min]

theorem isPlace_positionOf (d : Document) (o : Nat) : d.IsPlace (d.positionOf o) := by
  rw [← d.positionOf_min o]
  exact d.clamp_positionOf (Nat.min_le_right _ _)

theorem isPlace_clamp (d : Document) (p : Position) : d.IsPlace (d.clamp p) :=
  d.isPlace_positionOf _

theorem isPlace_origin (d : Document) : d.IsPlace .origin := d.isPlace_positionOf 0

theorem positionOf_lt (h : o < o') (ho' : o' ≤ d.length) : d.positionOf o < d.positionOf o' := by
  rw [d.positionOf_after (Nat.le_of_lt h)]
  apply Position.lt_after
  rw [← List.length_pos_iff, length_slice]
  omega

theorem not_positionOf_lt (d : Document) (h : o ≤ o') : ¬ d.positionOf o' < d.positionOf o := by
  rcases Nat.eq_or_lt_of_le h with rfl | hlt
  · exact Position.lt_irrefl _
  · rw [d.positionOf_after h]
    by_cases hs : d.slice o o' = []
    · rw [hs, Position.after_nil]
      exact Position.lt_irrefl _
    · exact Position.lt_asymm (Position.lt_after _ hs)

theorem IsPlace.offsetOf_le (hp : d.IsPlace p) (hq : d.IsPlace q) (h : ¬ q < p) :
    d.offsetOf p ≤ d.offsetOf q := by
  by_contra hlt
  apply h
  rw [← hp, ← hq]
  exact positionOf_lt (by omega) (d.offsetOf_le_length p)

theorem offsetOf_normalized {r : TextRange} (hstart : d.IsPlace r.start) (hstop : d.IsPlace r.stop) :
    d.offsetOf r.normalized.start = min (d.offsetOf r.start) (d.offsetOf r.stop) ∧
      d.offsetOf r.normalized.stop = max (d.offsetOf r.start) (d.offsetOf r.stop) := by
  unfold TextRange.normalized
  split
  · next h =>
    have := hstop.offsetOf_le hstart (Position.lt_asymm h)
    exact ⟨(Nat.min_eq_right this).symm, (Nat.max_eq_left this).symm⟩
  · next h =>
    have := hstart.offsetOf_le hstop h
    exact ⟨(Nat.min_eq_left this).symm, (Nat.max_eq_right this).symm⟩

theorem positionOf_congr (h : d'.chars.take o = d.chars.take o) : d'.positionOf o = d.positionOf o := by
  rw [positionOf_eq_after, positionOf_eq_after, h]

theorem IsPlace.of_prefix (h : IsPlace ⟨s ++ t⟩ p) (hle : offsetOf ⟨s ++ t⟩ p ≤ s.length)
    (u : List Char) :
    IsPlace ⟨s ++ u⟩ p ∧ offsetOf ⟨s ++ u⟩ p = offsetOf ⟨s ++ t⟩ p := by
  have hp : positionOf ⟨s ++ u⟩ (offsetOf ⟨s ++ t⟩ p) = p := by
    refine Eq.trans (positionOf_congr ?_) h
    rw [List.take_append_of_le_length hle, List.take_append_of_le_length hle]
  constructor
  · rw [← hp]
    exact isPlace_positionOf _ _
  · conv => lhs; rw [← hp]
    apply offsetOf_positionOf
    change _ ≤ (s ++ u).length
    rw [List.length_append]
    omega

theorem IsPlace.append (h : IsPlace ⟨s⟩ p) (t : List Char) : IsPlace ⟨s ++ t⟩ p := by
  have hle : offsetOf ⟨s⟩ p ≤ s.length := offsetOf_le_length ⟨s⟩ p
  rw [← List.append_nil s] at h hle
  exact (h.of_prefix (by simpa using hle) t).1

theorem IsPlace.insert (h : IsPlace ⟨s ++ t⟩ p) (hu : '\n' ∉ u) : IsPlace ⟨s ++ u ++ t⟩ p := by
  have hle : offsetOf ⟨s ++ t⟩ p ≤ (s ++ t).length := offsetOf_le_length ⟨s ++ t⟩ p
  rw [List.length_append] at hle
  unfold IsPlace at h
  set o := offsetOf ⟨s ++ t⟩ p
  rcases Nat.le_total o s.length with hos | hso
  · have hp : positionOf ⟨s ++ u ++ t⟩ o = p := by
      rw [← h]
      apply positionOf_congr
      rw [List.append_assoc, List.take_append_of_le_length hos, List.take_append_of_le_length hos]
    exact hp ▸ isPlace_positionOf _ o
  · obtain ⟨n, hn⟩ := Nat.le.dest hso
    have htake : (s ++ t).take o = s ++ t.take n := by
      rw [← hn, List.take_length_add_append]
    rw [positionOf_eq_after, htake, Position.after_append] at h
    by_cases hline : '\n' ∈ t.take n
    -- behind a newline the place has moved on by what was inserted
    · have hp : positionOf ⟨s ++ u ++ t⟩ (s.length + (u.length + n)) = p := by
        rw [positionOf_eq_after, List.append_assoc, List.take_length_add_append,
          List.take_length_add_append, Position.after_append,
          Position.after_append_newline _ hu hline]
        exact h
      exact hp ▸ isPlace_positionOf _ _
    -- on the same line it stands over other text, but the line has not become shorter
    · have hwidth : ((u ++ t).take n).length = (t.take n).length := by
        rw [List.length_take, List.length_take, List.length_append]
        omega
      have hnot : '\n' ∉ (u ++ t).take n := by
        rw [List.take_append, List.mem_append]
        rintro (hmem | hmem)
        · exact hu (List.mem_of_mem_take hmem)
        · exact hline ((List.take_prefix_take_left (by omega)).subset hmem)
      have hp : positionOf ⟨s ++ u ++ t⟩ (s.length + n) = p := by
        rw [positionOf_eq_after, List.append_assoc, List.take_length_add_append,
          Position.after_append, Position.after_eq_of_length _ hnot hline hwidth]
        exact h
      exact hp ▸ isPlace_positionOf _ _

end Document

end CaretSql
