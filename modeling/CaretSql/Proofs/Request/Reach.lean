import CaretSql.Proofs.Request.Region
import CaretSql.Proofs.Token.Restart

/-! The region that a caret is in. The regions of a text lie behind each other, each from right
behind one delimiter up to the next, and every caret is in the first of them whose end it has not
passed. -/

namespace CaretSql

def Document.regions (d : Document) : List (Nat × Nat) :=
  Request.regions d 0 (Lexemes.ofText d.chars).delimiters

namespace Request

variable {d : Document} {start stop c i : Nat} {delimiters : List Nat} {region : Nat × Nat}
  {rs : List (Nat × Nat)}

/-- The ends of regions from `start` on: delimiters in order and in the text. -/
structure Ends (d : Document) (start : Nat) (delimiters : List Nat) : Prop where
  inText : start ≤ d.length
  sorted : delimiters.Pairwise (· < ·)
  bounds : ∀ stop ∈ delimiters, start ≤ stop ∧ stop < d.length

theorem ends_delimiters (d : Document) : Ends d 0 (Lexemes.ofText d.chars).delimiters := by
  rw [Lexer.ofText_eq_ofTokens]
  refine ⟨Nat.zero_le _, Lexemes.delimiters_sorted 0 _, ?_⟩
  intro stop hstop
  have := (Lexemes.delimiters_bounds hstop).2
  rw [Token.joined_tokens, Nat.zero_add] at this
  exact ⟨Nat.zero_le _, this⟩

theorem Ends.onward {more : List Nat} (h : Ends d start (stop :: more)) :
    Ends d (stop + 1) more := by
  obtain ⟨-, hlt⟩ := h.bounds stop List.mem_cons_self
  obtain ⟨hbehind, hsorted⟩ := List.pairwise_cons.mp h.sorted
  refine ⟨hlt, hsorted, ?_⟩
  intro stop' hmem
  exact ⟨hbehind stop' hmem, (h.bounds stop' (List.mem_cons_of_mem _ hmem)).2⟩

theorem Ends.region_bounds (h : Ends d start delimiters)
    (hmem : region ∈ regions d start delimiters) :
    start ≤ region.1 ∧ region.1 ≤ region.2 ∧ region.2 ≤ d.length := by
  induction delimiters generalizing start with
  | nil =>
    obtain rfl := List.mem_singleton.mp hmem
    exact ⟨Nat.le_refl _, h.inText, Nat.le_refl _⟩
  | cons stop more ih =>
    obtain ⟨hle, hlt⟩ := h.bounds stop List.mem_cons_self
    rcases List.mem_cons.mp hmem with rfl | hmore
    · exact ⟨Nat.le_refl _, hle, Nat.le_of_lt hlt⟩
    · obtain ⟨hstart, hbounds⟩ := ih h.onward hmore
      exact ⟨by omega, hbounds⟩

theorem Ends.regions_pairwise (h : Ends d start delimiters) :
    (regions d start delimiters).Pairwise fun a b => a.2 + 1 ≤ b.1 := by
  induction delimiters generalizing start with
  | nil => exact List.pairwise_singleton _ _
  | cons stop more ih =>
    exact List.Pairwise.cons (fun b hb => (h.onward.region_bounds hb).1) (ih h.onward)

theorem regions_ordered {j : Nat} {region' : Nat × Nat} (h : d.regions[i]? = some region)
    (h' : d.regions[j]? = some region') (hlt : i < j) : region.2 + 1 ≤ region'.1 := by
  obtain ⟨hi, rfl⟩ := List.getElem?_eq_some_iff.mp h
  obtain ⟨hj, rfl⟩ := List.getElem?_eq_some_iff.mp h'
  exact List.pairwise_iff_getElem.mp (ends_delimiters d).regions_pairwise i j hi hj hlt

theorem regions_head (h : (regions d start delimiters)[0]? = some region) : region.1 = start := by
  cases delimiters with
  | nil =>
    obtain rfl : (start, d.length) = region := by simpa [regions] using h
    rfl
  | cons stop more =>
    obtain rfl : (start, stop) = region := by simpa [regions] using h
    rfl

theorem regions_next {earlier : Nat × Nat} (h : (regions d start delimiters)[i]? = some earlier)
    (hnext : (regions d start delimiters)[i + 1]? = some region) : region.1 = earlier.2 + 1 := by
  induction delimiters generalizing start i with
  | nil => simp [regions] at hnext
  | cons stop more ih =>
    rw [regions, List.getElem?_cons_succ] at hnext
    cases i with
    | zero =>
      obtain rfl : (start, stop) = earlier := by simpa [regions] using h
      exact regions_head hnext
    | succ i => exact ih (by simpa [regions] using h) hnext

/-- The caret is in the region of this index: the first one whose reach it is in. A delimiter
belongs to the region that it closes, and so does the place right behind it. -/
structure Reached (rs : List (Nat × Nat)) (c i : Nat) (region : Nat × Nat) : Prop where
  get : rs[i]? = some region
  reach : c ≤ if i + 1 < rs.length then region.2 + 1 else region.2
  first : ∀ j < i, ∀ earlier, rs[j]? = some earlier → earlier.2 + 1 < c

theorem Reached.le (h : Reached rs c i region) : c ≤ region.2 + 1 := by
  have := h.reach
  split at this <;> omega

theorem Reached.tail {head : Nat × Nat} (h : Reached (head :: rs) c (i + 1) region) :
    Reached rs c i region where
  get := by simpa using h.get
  reach := by simpa using h.reach
  first := fun j hj earlier hget => h.first (j + 1) (by omega) earlier (by simpa using hget)

theorem Reached.start_le (h : Reached (regions d start delimiters) c i region) (hstart : start ≤ c) :
    region.1 ≤ c := by
  cases i with
  | zero =>
    rw [regions_head h.get]
    exact hstart
  | succ i =>
    have hi : i < (regions d start delimiters).length := by
      have := (List.getElem?_eq_some_iff.mp h.get).1
      omega
    have hearlier := List.getElem?_eq_getElem hi
    have hlt := h.first i (Nat.lt_succ_self i) _ hearlier
    rw [regions_next hearlier h.get]
    omega

/-- A caret inside a region, behind its start, is in that region. -/
theorem reached_inside (hget : d.regions[i]? = some region) (hstart : region.1 < c)
    (hstop : c ≤ region.2) : Reached d.regions c i region where
  get := hget
  reach := by split <;> omega
  first := by
    intro j hj earlier hearlier
    have := regions_ordered hearlier hget hj
    omega

theorem regions_ne_nil (d : Document) (start : Nat) (delimiters : List Nat) :
    0 < (regions d start delimiters).length := by
  cases delimiters <;> simp [regions]

theorem exists_reached (start : Nat) (delimiters : List Nat) (hc : c ≤ d.length) :
    ∃ i region, Reached (regions d start delimiters) c i region := by
  induction delimiters generalizing start with
  | nil =>
    refine ⟨0, (start, d.length), rfl, by simpa [regions] using hc, ?_⟩
    intro j hj
    exact absurd hj (Nat.not_lt_zero j)
  | cons stop more ih =>
    by_cases hstop : c ≤ stop + 1
    · refine ⟨0, (start, stop), rfl, ?_, ?_⟩
      · rw [regions, if_pos]
        · exact hstop
        · have := regions_ne_nil d (stop + 1) more
          rw [List.length_cons]
          omega
      · intro j hj
        exact absurd hj (Nat.not_lt_zero j)
    · obtain ⟨i, region, h⟩ := ih (stop + 1)
      refine ⟨i + 1, region, ?_, ?_, ?_⟩
      · simpa [regions] using h.get
      · simpa [regions] using h.reach
      · intro j hj earlier hget
        cases j with
        | zero =>
          obtain rfl : (start, stop) = earlier := by simpa [regions] using hget
          omega
        | succ j => exact h.first j (by omega) earlier (by simpa [regions] using hget)

end Request

end CaretSql
