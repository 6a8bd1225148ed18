import CaretSql.Proofs.Request.Selection
import Mathlib.Order.Bounds.Basic

/-! Searching in an editor. The search begins at the caret and goes on from the start of the text, and
looks at every offset once; what it finds is selected, with the caret behind it. -/

namespace CaretSql

namespace Editor

variable {e : Editor} {needle text : List Char} {start hit i : Nat}

/-- The needle stands in the text from this offset on. -/
def Occurs (needle text : List Char) (i : Nat) : Prop := needle <+: text.drop i

theorem exists_occurs_iff : (∃ i, Occurs needle text i) ↔ needle <:+: text := by
  constructor
  · rintro ⟨i, h⟩
    exact h.isInfix.trans (List.drop_suffix i text).isInfix
  · rintro ⟨before, behind, rfl⟩
    refine ⟨before.length, behind, ?_⟩
    rw [List.append_assoc, List.drop_left]

theorem Occurs.le (h : Occurs needle text i) (hne : needle ≠ []) :
    i + needle.length ≤ text.length := by
  have hpos := List.length_pos_iff.mpr hne
  have hle := h.length_le
  rw [List.length_drop] at hle
  omega

/-- The occurrence that a search from an offset comes to: the first one that begins there or behind
it, or the first of all if none does. -/
inductive Next (needle text : List Char) (start : Nat) : Nat → Prop
  | onward {hit : Nat} (h : IsLeast {i | start ≤ i ∧ Occurs needle text i} hit) :
      Next needle text start hit
  | around {hit : Nat} (hnone : ∀ i, start ≤ i → ¬ Occurs needle text i)
      (h : IsLeast {i | Occurs needle text i} hit) : Next needle text start hit

theorem Next.occurs (h : Next needle text start hit) : Occurs needle text hit := by
  cases h with
  | onward h => exact h.1.2
  | around _ h => exact h.1

/-- Going through numbers in ascending order finds the least that is sought. -/
theorem find?_eq_some_iff_isLeast {p : Nat → Bool} {l : List Nat} (h : l.Pairwise (· < ·)) :
    l.find? p = some hit ↔ IsLeast {i | i ∈ l ∧ p i = true} hit := by
  induction l with
  | nil => simp [IsLeast]
  | cons first l ih =>
    obtain ⟨hfirst, hrest⟩ := List.pairwise_cons.mp h
    cases hp : p first with
    | true =>
      have hleast : IsLeast {i | i ∈ first :: l ∧ p i = true} first := by
        refine ⟨⟨List.mem_cons_self, hp⟩, ?_⟩
        rintro i ⟨hmem, -⟩
        rcases List.mem_cons.mp hmem with rfl | hl
        · exact Nat.le_refl _
        · exact Nat.le_of_lt (hfirst i hl)
      rw [List.find?_cons_of_pos hp, Option.some.injEq]
      exact ⟨fun heq => heq ▸ hleast, fun h' => hleast.unique h'⟩
    | false =>
      have hset : {i | i ∈ first :: l ∧ p i = true} = {i | i ∈ l ∧ p i = true} := by
        ext i
        constructor
        · rintro ⟨hmem, hi⟩
          rcases List.mem_cons.mp hmem with rfl | hl
          · rw [hp] at hi
            cases hi
          · exact ⟨hl, hi⟩
        · rintro ⟨hl, hi⟩
          exact ⟨List.mem_cons_of_mem _ hl, hi⟩
      rw [List.find?_cons_of_neg (by simp [hp]), hset]
      exact ih hrest

theorem or_find?_eq_some_iff {p q : Nat → Bool} {first second : List Nat}
    (hfirst : first.Pairwise (· < ·)) (hsecond : second.Pairwise (· < ·))
    (honward : ∀ i, i ∈ first ∧ p i = true ↔ start ≤ i ∧ Occurs needle text i)
    (haround : (∀ i, start ≤ i → ¬ Occurs needle text i) →
      ∀ i, i ∈ second ∧ q i = true ↔ Occurs needle text i) :
    (first.find? p).or (second.find? q) = some hit ↔ Next needle text start hit := by
  have hnone : first.find? p = none ↔ ∀ i, start ≤ i → ¬ Occurs needle text i := by
    rw [List.find?_eq_none]
    exact ⟨fun h i hi ho => h i ((honward i).mpr ⟨hi, ho⟩).1 ((honward i).mpr ⟨hi, ho⟩).2,
      fun h i hmem hp => h i ((honward i).mp ⟨hmem, hp⟩).1 ((honward i).mp ⟨hmem, hp⟩).2⟩
  have hleast : first.find? p = some hit ↔
      IsLeast {i | start ≤ i ∧ Occurs needle text i} hit := by
    rw [find?_eq_some_iff_isLeast hfirst]
    simp only [honward]
  rw [Option.or_eq_some_iff, hleast, hnone]
  constructor
  · rintro (h | ⟨hnot, h⟩)
    · exact .onward h
    · rw [find?_eq_some_iff_isLeast hsecond] at h
      simp only [haround hnot] at h
      exact .around hnot h
  · rintro (h | ⟨hnot, h⟩)
    · exact .inl h
    · refine .inr ⟨hnot, ?_⟩
      rw [find?_eq_some_iff_isLeast hsecond]
      simp only [haround hnot]
      exact h

theorem occurrence?_eq_some_iff (hne : needle ≠ []) :
    occurrence? needle text start = some hit ↔ Next needle text start hit := by
  have hlt (i : Nat) (h : Occurs needle text i) : i < text.length + 1 := by
    have := h.le hne
    omega
  rw [occurrence?, List.find?_filter, List.head?_filter]
  apply or_find?_eq_some_iff List.pairwise_lt_range List.pairwise_lt_range
  · intro i
    simp only [List.mem_range, decide_eq_true_eq, List.isPrefixOf_iff_prefix]
    exact ⟨fun h => ⟨h.2.2, h.2.1⟩, fun h => ⟨hlt i h.2, h.2, h.1⟩⟩
  · intro _ i
    simp only [List.mem_range, List.isPrefixOf_iff_prefix]
    exact ⟨And.right, fun h => ⟨hlt i h, h⟩⟩

/-- the offsets that a search looks at, in turn, where the needle can begin no later than at `last`:
those from its start on and then those before it -/
def lookups (start last : Nat) : List Nat :=
  List.range' start (last + 1 - start) ++ List.range (min start (last + 1))

/-- Every offset is looked at once. -/
theorem lookups_perm (start last : Nat) : (lookups start last).Perm (List.range (last + 1)) := by
  have hsplit : List.range (last + 1) = List.range (min start (last + 1)) ++
      List.range' (min start (last + 1)) (last + 1 - min start (last + 1)) := by
    have hjoin := @List.range'_append_1 0 (min start (last + 1)) (last + 1 - min start (last + 1))
    rw [Nat.zero_add, Nat.add_sub_cancel' (Nat.min_le_right _ _)] at hjoin
    rw [List.range_eq_range', List.range_eq_range', hjoin]
  have hfirst : List.range' start (last + 1 - start) =
      List.range' (min start (last + 1)) (last + 1 - min start (last + 1)) := by
    rcases Nat.le_total start (last + 1) with hle | hle
    · rw [Nat.min_eq_left hle]
    · rw [Nat.min_eq_right hle, Nat.sub_eq_zero_of_le hle, Nat.sub_self]
      rfl
  rw [lookups, hsplit, hfirst]
  exact List.perm_append_comm

/-- The search comes to the first occurrence among the offsets that it looks at in turn. -/
theorem occurrence?_eq_find?_lookups (hne : needle ≠ []) (hle : needle.length ≤ text.length) :
    occurrence? needle text start =
      (lookups start (text.length - needle.length)).find? fun i =>
        needle.isPrefixOf (text.drop i) := by
  ext hit
  rw [occurrence?_eq_some_iff hne, lookups, List.find?_append]
  symm
  apply or_find?_eq_some_iff List.pairwise_lt_range' List.pairwise_lt_range
  · intro i
    rw [List.mem_range'_1, List.isPrefixOf_iff_prefix]
    refine ⟨fun h => ⟨h.1.1, h.2⟩, fun h => ⟨⟨h.1, ?_⟩, h.2⟩⟩
    have hfits := Occurs.le h.2 hne
    omega
  · intro hnone i
    rw [List.mem_range, List.isPrefixOf_iff_prefix]
    refine ⟨And.right, fun h => ⟨?_, h⟩⟩
    have hbefore : i < start := Nat.lt_of_not_le fun hi => hnone i hi h
    have hfits := Occurs.le h hne
    omega

theorem occurrence?_eq_none_iff (hne : needle ≠ []) :
    occurrence? needle text start = none ↔ ¬ needle <:+: text := by
  rw [← exists_occurs_iff, occurrence?, List.head?_filter, Option.or_eq_none_iff,
    List.find?_eq_none, List.find?_eq_none]
  constructor
  · rintro ⟨-, hnone⟩ ⟨i, hi⟩
    have hle := hi.le hne
    exact hnone i (List.mem_range.mpr (by omega)) (List.isPrefixOf_iff_prefix.mpr hi)
  · intro hnone
    refine ⟨fun i hmem => ?_, fun i _ hi => hnone ⟨i, List.isPrefixOf_iff_prefix.mp hi⟩⟩
    exact absurd ⟨i, List.isPrefixOf_iff_prefix.mp (List.mem_filter.mp hmem).2⟩ hnone

theorem exists_next (hne : needle ≠ []) (h : needle <:+: text) (start : Nat) :
    ∃ hit, Next needle text start hit := by
  cases hnext : occurrence? needle text start with
  | none => exact absurd h ((occurrence?_eq_none_iff hne).mp hnext)
  | some hit => exact ⟨hit, (occurrence?_eq_some_iff hne).mp hnext⟩

def span (e : Editor) (needle : List Char) (hit : Nat) : TextRange :=
  ⟨e.document.positionOf hit, e.document.positionOf (hit + needle.length)⟩

theorem find_eq (hne : needle ≠ []) (e : Editor) :
    e.find needle =
      match occurrence? needle e.text (e.document.offsetOf e.caret) with
      | none => (none, e)
      | some hit => (some (e.span needle hit), e.select (e.span needle hit)) := by
  rw [Editor.find, if_neg (by simpa using hne)]
  rfl

theorem fst_find (hne : needle ≠ []) (e : Editor) :
    (e.find needle).1 =
      (occurrence? needle e.text (e.document.offsetOf e.caret)).map (e.span needle) := by
  rw [find_eq hne]
  cases occurrence? needle e.text (e.document.offsetOf e.caret) <;> rfl

theorem find_of_absent (h : needle = [] ∨ ¬ needle <:+: e.text) : e.find needle = (none, e) := by
  by_cases hne : needle = []
  · rw [Editor.find, if_pos (by simpa using hne)]
  · rw [find_eq hne, (occurrence?_eq_none_iff hne).mpr (h.resolve_left hne)]

/-- What is found is selected; both its ends are places of the text already. -/
theorem find_of_next (hne : needle ≠ [])
    (h : Next needle e.text (e.document.offsetOf e.caret) hit) :
    e.find needle = (some (e.span needle hit), e.select (e.span needle hit)) := by
  rw [find_eq hne, (occurrence?_eq_some_iff hne).mpr h]

theorem select_span (h : Occurs needle e.text hit) (hne : needle ≠ []) :
    e.select (e.span needle hit) =
      { e with caret := (e.span needle hit).stop, selection := some (e.span needle hit) } := by
  have hle : hit + needle.length ≤ e.document.length := h.le hne
  have hstart : e.document.clamp (e.span needle hit).start = (e.span needle hit).start :=
    e.document.clamp_positionOf (by omega)
  have hstop : e.document.clamp (e.span needle hit).stop = (e.span needle hit).stop :=
    e.document.clamp_positionOf hle
  rw [select, hstart, hstop]

theorem textIn_span (h : Occurs needle e.text hit) (hne : needle ≠ []) :
    e.document.textIn (e.span needle hit) = needle := by
  have hle : hit + needle.length ≤ e.document.length := h.le hne
  have hordered : (e.span needle hit).normalized = e.span needle hit :=
    if_neg (e.document.not_positionOf_lt (Nat.le_add_right _ _))
  have hstart : e.document.offsetOf (e.span needle hit).start = hit :=
    e.document.offsetOf_positionOf (by omega)
  have hstop : e.document.offsetOf (e.span needle hit).stop = hit + needle.length :=
    e.document.offsetOf_positionOf hle
  rw [Document.textIn, hordered, hstart, hstop]
  exact Document.slice_of_isPrefix h

end Editor

end CaretSql
