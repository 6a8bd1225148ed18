import CaretSql.Character.Blank
import Mathlib.Data.List.TakeWhile

/-! Trimming. A text that is not all blank is its trimmed self between two blank ends, and the
trimmed text neither begins nor ends in a blank. -/

namespace CaretSql.Character

variable {s : List Char} {c : Char}

theorem of_isBlank {P : Char → Prop} (hcodes : ∀ n ∈ blankCodes, P (Char.ofNat n))
    (h : isBlank c = true) : P c := by
  have hc := hcodes c.toNat (List.contains_iff_mem.mp h)
  rwa [Char.ofNat_toNat] at hc

theorem head?_trimStart (h : (trimStart s).head? = some c) : isBlank c = false := by
  have hnot := List.head?_dropWhile_not isBlank s
  rw [← trimStart, h] at hnot
  exact hnot

theorem trimStart_append (s : List Char) : s.takeWhile isBlank ++ trimStart s = s :=
  List.takeWhile_append_dropWhile

theorem trimEnd_append (s : List Char) :
    trimEnd s ++ (s.reverse.takeWhile isBlank).reverse = s := by
  rw [trimEnd, ← List.reverse_append, List.takeWhile_append_dropWhile, List.reverse_reverse]

/-- A blank end is the same with blanks cut off at the start. -/
theorem takeWhile_reverse_trimStart (h : ∃ c ∈ s, isBlank c = false) :
    (trimStart s).reverse.takeWhile isBlank = s.reverse.takeWhile isBlank := by
  have hmem : ∃ c ∈ trimStart s, isBlank c = false := by
    obtain ⟨c, hc, hb⟩ := h
    refine ⟨c, ?_, hb⟩
    rw [← trimStart_append s] at hc
    rcases List.mem_append.mp hc with hlead | hrest
    · have := List.mem_takeWhile_imp hlead
      rw [hb] at this
      cases this
    · exact hrest
  have hne : ¬ ((trimStart s).reverse.takeWhile isBlank).length = (trimStart s).reverse.length := by
    intro hlen
    obtain ⟨c, hc, hb⟩ := hmem
    have heq := (List.takeWhile_prefix isBlank).eq_of_length hlen
    have := List.takeWhile_eq_self_iff.mp heq c (List.mem_reverse.mpr hc)
    rw [hb] at this
    cases this
  conv => rhs; rw [← trimStart_append s, List.reverse_append, List.takeWhile_append, if_neg hne]

theorem trim_ne_nil (h : ∃ c ∈ s, isBlank c = false) : trim s ≠ [] := by
  obtain ⟨c, hc, hb⟩ := h
  intro hnil
  have hall : ∀ c ∈ trimStart s, isBlank c = true := by
    intro c hc
    rw [trim, trimEnd, List.reverse_eq_nil_iff, List.dropWhile_eq_nil_iff] at hnil
    exact hnil c (List.mem_reverse.mpr hc)
  rw [← trimStart_append s] at hc
  rcases List.mem_append.mp hc with hlead | hrest
  · have := List.mem_takeWhile_imp hlead
    rw [hb] at this
    cases this
  · have := hall c hrest
    rw [hb] at this
    cases this

/-- A text that is not all blank is its trimmed self between two blank ends. -/
theorem trim_split (h : ∃ c ∈ s, isBlank c = false) :
    s = s.takeWhile isBlank ++ trim s ++ (s.reverse.takeWhile isBlank).reverse := by
  rw [← takeWhile_reverse_trimStart h, trim, List.append_assoc, trimEnd_append, trimStart_append]

theorem mem_of_mem_trim (h : c ∈ trim s) : c ∈ s := by
  rw [← trimStart_append s, ← trimEnd_append (trimStart s), ← trim]
  exact List.mem_append_right _ (List.mem_append_left _ h)

theorem trim_between {before after : List Char} (hbefore : ∀ c ∈ before, isBlank c = true)
    (hs : ∀ c ∈ s, isBlank c = false) (hne : s ≠ []) (hafter : ∀ c ∈ after, isBlank c = true) :
    trim (before ++ s ++ after) = s := by
  obtain ⟨c, rest, rfl⟩ := List.exists_cons_of_ne_nil hne
  have hstart : trimStart (before ++ (c :: rest) ++ after) = c :: rest ++ after := by
    rw [trimStart, List.append_assoc, List.dropWhile_append_of_pos hbefore, List.cons_append,
      List.dropWhile_cons_of_neg (by simp [hs c])]
  have hend : (c :: rest).reverse.dropWhile isBlank = (c :: rest).reverse := by
    rw [List.dropWhile_eq_self_iff]
    intro hlt
    have hlast := hs _ (List.mem_reverse.mp (List.getElem_mem hlt))
    rw [hlast]
    exact Bool.false_ne_true
  rw [trim, hstart, trimEnd, List.reverse_append, List.dropWhile_append_of_pos, hend,
    List.reverse_reverse]
  intro d hd
  exact hafter d (List.mem_reverse.mp hd)

end CaretSql.Character
