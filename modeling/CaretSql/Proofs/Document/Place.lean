import CaretSql.Document
import Mathlib.Data.List.TakeWhile
import Mathlib.Tactic.Set

/-! Offsets and positions of a text. A text moves a position on, and moving on by one text and then
by another is moving on by both; the position of an offset is the first place moved on by the text
before it. On the offsets of a text, `offsetOf` undoes `positionOf`. -/

namespace CaretSql

namespace Position

def lastWidth (s : List Char) : Nat := (s.reverse.takeWhile (· != '\n')).length

theorem lastWidth_of_not_mem {s : List Char} (h : '\n' ∉ s) : lastWidth s = s.length := by
  have hall : ∀ c ∈ s.reverse, (c != '\n') = true := by
    intro c hc
    have hne : c ≠ '\n' := fun he => h (he ▸ List.mem_reverse.mp hc)
    simpa using hne
  rw [lastWidth, List.takeWhile_eq_self_iff.mpr hall, List.length_reverse]

theorem lastWidth_append (s t : List Char) :
    lastWidth (s ++ t) = if '\n' ∈ t then lastWidth t else lastWidth s + t.length := by
  by_cases h : '\n' ∈ t
  · have hne : ¬ (t.reverse.takeWhile (· != '\n')).length = t.reverse.length := by
      intro hlen
      have heq := (List.takeWhile_prefix (· != '\n')).eq_of_length hlen
      have := List.takeWhile_eq_self_iff.mp heq '\n' (List.mem_reverse.mpr h)
      simp at this
    rw [if_pos h, lastWidth, List.reverse_append, List.takeWhile_append, if_neg hne]
    rfl
  · have heq : (t.reverse.takeWhile (· != '\n')).length = t.reverse.length := by
      rw [List.length_reverse]
      exact lastWidth_of_not_mem h
    rw [if_neg h, lastWidth, List.reverse_append, List.takeWhile_append, if_pos heq,
      List.length_append, List.length_reverse, Nat.add_comm]
    rfl

theorem lastWidth_newline (s : List Char) : lastWidth ('\n' :: s) = lastWidth s := by
  rw [← List.singleton_append, lastWidth_append]
  by_cases h : '\n' ∈ s
  · rw [if_pos h]
  · rw [if_neg h, lastWidth_of_not_mem h]
    exact Nat.zero_add _

theorem lastWidth_cons {c : Char} (hc : c ≠ '\n') (s : List Char) :
    lastWidth (c :: s) = if '\n' ∈ s then lastWidth s else lastWidth s + 1 := by
  rw [← List.singleton_append, lastWidth_append]
  by_cases h : '\n' ∈ s
  · rw [if_pos h, if_pos h]
  · have hone : lastWidth [c] = 1 := lastWidth_of_not_mem (by simpa using hc.symm)
    rw [if_neg h, if_neg h, lastWidth_of_not_mem h, hone, Nat.add_comm]

def after (p : Position) (s : List Char) : Position where
  row := p.row + s.count '\n'
  column := if '\n' ∈ s then lastWidth s else p.column + s.length

@[simp] theorem after_nil (p : Position) : p.after [] = p := by simp [after]

theorem after_append (p : Position) (s t : List Char) : p.after (s ++ t) = (p.after s).after t := by
  have hrow : p.row + (s ++ t).count '\n' = p.row + s.count '\n' + t.count '\n' := by
    rw [List.count_append, Nat.add_assoc]
  by_cases ht : '\n' ∈ t
  · simp only [after, hrow, List.mem_append, ht, or_true, if_true, lastWidth_append]
  · by_cases hs : '\n' ∈ s
    · simp only [after, hrow, List.mem_append, ht, hs, or_false, if_true, if_false,
        lastWidth_append]
    · simp only [after, hrow, List.mem_append, ht, hs, or_false, if_false, List.length_append,
        Nat.add_assoc]

end Position

namespace Document

theorem positionOf_eq_after (d : Document) (o : Nat) :
    d.positionOf o = Position.origin.after (d.chars.take o) := by
  unfold positionOf Position.after Position.origin
  by_cases h : '\n' ∈ d.chars.take o
  · simp only [h, if_true, Nat.add_comm]
    rfl
  · have hwidth := Position.lastWidth_of_not_mem h
    unfold Position.lastWidth at hwidth
    simp only [h, if_false, hwidth, Nat.add_comm, Nat.add_zero]

theorem slice_take (d : Document) {start stop n : Nat} (h : start + n ≤ stop) :
    (d.slice start stop).take n = d.slice start (start + n) := by
  rw [slice, slice, List.take_drop, List.take_take, Nat.min_eq_left h]

theorem slice_drop (d : Document) (start stop n : Nat) :
    (d.slice start stop).drop n = d.slice (start + n) stop := by
  rw [slice, slice, List.drop_drop]

/-- A slice is as long as the text lets it be. -/
theorem slice_length (d : Document) (start stop : Nat) :
    d.slice start (start + (d.slice start stop).length) = d.slice start stop := by
  rw [length_slice, slice, slice, List.drop_take, List.drop_take, List.take_eq_take_iff,
    List.length_drop]
  unfold length
  omega

theorem slice_of_isPrefix {d : Document} {s : List Char} {o : Nat} (h : s <+: d.chars.drop o) :
    d.slice o (o + s.length) = s := by
  rw [slice, List.drop_take, Nat.add_sub_cancel_left]
  exact (List.prefix_iff_eq_take.mp h).symm

theorem positionOf_after (d : Document) {start stop : Nat} (h : start ≤ stop) :
    d.positionOf stop = (d.positionOf start).after (d.slice start stop) := by
  rw [positionOf_eq_after, positionOf_eq_after, ← Position.after_append]
  congr 1
  have hmin : min start stop = start := by omega
  conv => lhs; rw [← List.take_append_drop start (d.chars.take stop), List.take_take, hmin]
  rfl

theorem slice_all (s : List Char) : slice ⟨s⟩ 0 s.length = s := by
  simp [slice]

theorem splitLines_newline (s : List Char) : splitLines ('\n' :: s) = [] :: splitLines s := by
  simp [splitLines]

theorem splitLines_cons {c : Char} (h : c ≠ '\n') (s : List Char) :
    ∃ line more, splitLines s = line :: more ∧ splitLines (c :: s) = (c :: line) :: more := by
  obtain ⟨line, more, hs⟩ := List.exists_cons_of_ne_nil (splitLines_ne_nil s)
  exact ⟨line, more, hs, by simp [splitLines, h, hs]⟩

/-- where the line of this index begins, as `lineStart` counts it -/
def startOf (lines : List (List Char)) (index : Nat) : Nat :=
  linesLength (lines.take index)

@[simp] theorem startOf_zero (lines : List (List Char)) : startOf lines 0 = 0 := rfl

@[simp] theorem startOf_succ (line : List Char) (lines : List (List Char)) (index : Nat) :
    startOf (line :: lines) (index + 1) = line.length + 1 + startOf lines index := rfl

theorem linesLength_cons (line : List Char) (lines : List (List Char)) :
    linesLength (line :: lines) = line.length + 1 + linesLength lines := rfl

/-- A text ends in the line that has as many lines before it as there are newlines in the text. -/
structure EndsIn (lines : List (List Char)) (s : List Char) (line : List Char) : Prop where
  get : lines[s.count '\n']? = some line
  width : Position.lastWidth s ≤ line.length
  start : startOf lines (s.count '\n') + Position.lastWidth s = s.length

theorem EndsIn.newline {lines : List (List Char)} {s line : List Char} (h : EndsIn lines s line) :
    EndsIn ([] :: lines) ('\n' :: s) line where
  get := by simpa using h.get
  width := by simpa [Position.lastWidth_newline] using h.width
  start := by
    have := h.start
    simp only [List.count_cons_self, startOf_succ, List.length_nil, Position.lastWidth_newline,
      List.length_cons]
    omega

/-- A character in front lengthens the first line, which is the last one too if the text has no
newline. -/
theorem EndsIn.cons {first : List Char} {more : List (List Char)} {s line : List Char} {c : Char}
    (hc : c ≠ '\n') (h : EndsIn (first :: more) s line) :
    ∃ line', EndsIn ((c :: first) :: more) (c :: s) line' := by
  have hcount : (c :: s).count '\n' = s.count '\n' := by simp [hc]
  have hget := h.get
  have hwidth := h.width
  have hstart := h.start
  by_cases hmem : '\n' ∈ s
  · obtain ⟨i, hi⟩ := Nat.exists_eq_succ_of_ne_zero (Nat.ne_of_gt (List.count_pos_iff.mpr hmem))
    rw [hi] at hget hstart
    simp only [Nat.succ_eq_add_one, startOf_succ] at hstart
    refine ⟨line, ?_, ?_, ?_⟩
    · rw [hcount, hi]
      simpa using hget
    · rwa [Position.lastWidth_cons hc, if_pos hmem]
    · rw [hcount, hi, Position.lastWidth_cons hc, if_pos hmem, startOf_succ, List.length_cons,
        List.length_cons]
      omega
  · have hzero := List.count_eq_zero_of_not_mem hmem
    rw [hzero] at hget
    obtain rfl : first = line := by simpa using hget
    refine ⟨c :: first, ?_, ?_, ?_⟩
    · rw [hcount, hzero]
      rfl
    · rw [Position.lastWidth_cons hc, if_neg hmem, List.length_cons]
      omega
    · rw [hcount, hzero, Position.lastWidth_cons hc, if_neg hmem, startOf_zero,
        Position.lastWidth_of_not_mem hmem, List.length_cons, Nat.zero_add]

theorem exists_endsIn (s : List Char) (o : Nat) (h : o ≤ s.length) :
    ∃ line, EndsIn (splitLines s) (s.take o) line := by
  induction s generalizing o with
  | nil =>
    exact ⟨[], by simp [splitLines], by simp [Position.lastWidth], by simp [Position.lastWidth]⟩
  | cons c s ih =>
    cases o with
    | zero =>
      obtain ⟨line, more, hs⟩ := List.exists_cons_of_ne_nil (splitLines_ne_nil (c :: s))
      exact ⟨line, by simp [hs], by simp [Position.lastWidth], by simp [Position.lastWidth]⟩
    | succ o =>
      obtain ⟨line, hline⟩ := ih o (by simpa using h)
      rw [List.take_succ_cons]
      by_cases hc : c = '\n'
      · subst hc
        rw [splitLines_newline]
        exact ⟨line, hline.newline⟩
      · obtain ⟨first, more, hs, hcs⟩ := splitLines_cons hc s
        rw [hs] at hline
        rw [hcs]
        exact hline.cons hc

theorem offsetOf_of_get {d : Document} {p : Position} {line : List Char}
    (h : d.lines[p.row - 1]? = some line) :
    d.offsetOf p = d.lineStart (p.row - 1) + min p.column line.length := by
  rw [offsetOf, h]
  exact Nat.add_min_add_left _ _ _

theorem offsetOf_of_le {d : Document} {p : Position} {line : List Char}
    (h : d.lines[p.row - 1]? = some line) (hle : p.column ≤ line.length) :
    d.offsetOf p = d.lineStart (p.row - 1) + p.column := by
  rw [offsetOf_of_get h, Nat.min_eq_left hle]

theorem offsetOf_of_none {d : Document} {p : Position} (h : d.lines[p.row - 1]? = none) :
    d.offsetOf p = d.length := by
  rw [offsetOf, h]

theorem offsetOf_positionOf (d : Document) {o : Nat} (h : o ≤ d.length) :
    d.offsetOf (d.positionOf o) = o := by
  obtain ⟨line, hline⟩ := exists_endsIn d.chars o h
  have hlen : (d.chars.take o).length = o := by
    rw [List.length_take]
    exact Nat.min_eq_left h
  have hget : d.lines[(d.positionOf o).row - 1]? = some line := hline.get
  have hstart : d.lineStart ((d.positionOf o).row - 1) + (d.positionOf o).column = o := by
    have hsum := hline.start
    rw [hlen] at hsum
    exact hsum
  rw [offsetOf_of_le hget hline.width, hstart]

theorem clamp_positionOf (d : Document) {o : Nat} (h : o ≤ d.length) :
    d.clamp (d.positionOf o) = d.positionOf o := by
  rw [clamp, d.offsetOf_positionOf h]

theorem linesLength_splitLines (s : List Char) : linesLength (splitLines s) = s.length + 1 := by
  induction s with
  | nil => rfl
  | cons c s ih =>
    by_cases hc : c = '\n'
    · subst hc
      rw [splitLines_newline]
      rw [linesLength_cons, ih, List.length_nil, List.length_cons]
      omega
    · obtain ⟨first, more, hs, hcs⟩ := splitLines_cons hc s
      rw [hs] at ih
      rw [hcs]
      rw [linesLength_cons] at ih ⊢
      rw [List.length_cons, List.length_cons]
      omega

theorem startOf_add_length_lt {lines : List (List Char)} {index : Nat} {line : List Char}
    (h : lines[index]? = some line) :
    startOf lines index + line.length < linesLength lines := by
  induction lines generalizing index with
  | nil => simp at h
  | cons first more ih =>
    cases index with
    | zero =>
      obtain rfl : first = line := by simpa using h
      rw [startOf_zero, linesLength_cons]
      omega
    | succ index =>
      have := ih (by simpa using h)
      rw [startOf_succ, linesLength_cons]
      omega

/-- Every position means an offset of the text. -/
theorem offsetOf_le_length (d : Document) (p : Position) : d.offsetOf p ≤ d.length := by
  cases hget : d.lines[p.row - 1]? with
  | none => rw [offsetOf_of_none hget]
  | some line =>
    have hlt : d.lineStart (p.row - 1) + line.length < d.length + 1 := by
      rw [length, ← linesLength_splitLines d.chars]
      exact startOf_add_length_lt hget
    rw [offsetOf_of_get hget]
    omega

end Document

end CaretSql
