import CaretSql.Proofs.Document.Edit

/-! The lines of a text. Each begins a newline behind the end of the one before, so a position
further on never means an earlier offset; and the last line is what stands behind the last newline. -/

namespace CaretSql

namespace Document

open Position (lastWidth)

variable {d : Document} {p q : Position} {s t line : List Char} {lines : List (List Char)} {i j : Nat}

theorem length_splitLines (s : List Char) : (splitLines s).length = s.count '\n' + 1 := by
  induction s with
  | nil => rfl
  | cons c s ih =>
    by_cases hc : c = '\n'
    · subst hc
      rw [splitLines_newline, List.length_cons, ih, List.count_cons_self]
    · obtain ⟨line, more, hs, hcs⟩ := splitLines_cons hc s
      rw [hs, List.length_cons] at ih
      rw [hcs, List.length_cons, List.count_cons_of_ne hc, ih]

theorem startOf_succ_of_get (h : lines[i]? = some line) :
    startOf lines (i + 1) = startOf lines i + line.length + 1 := by
  induction lines generalizing i with
  | nil => simp at h
  | cons first more ih =>
    cases i with
    | zero =>
      obtain rfl : first = line := by simpa using h
      simp
    | succ i =>
      have := ih (by simpa using h)
      rw [startOf_succ, startOf_succ, this]
      omega

theorem startOf_mono (lines : List (List Char)) (h : i ≤ j) : startOf lines i ≤ startOf lines j := by
  induction lines generalizing i j with
  | nil => simp [startOf]
  | cons first more ih =>
    cases i with
    | zero => exact Nat.zero_le _
    | succ i =>
      obtain ⟨j, rfl⟩ := Nat.exists_eq_succ_of_ne_zero (show j ≠ 0 by omega)
      have := ih (show i ≤ j by omega)
      rw [startOf_succ, startOf_succ]
      omega

/-- A row further down begins behind the newline that ends the row. -/
theorem lineStart_lt (h : d.lines[i]? = some line) (hlt : i < j) :
    d.lineStart i + line.length < d.lineStart j := by
  have hnext : d.lineStart (i + 1) = d.lineStart i + line.length + 1 := startOf_succ_of_get h
  have hmono : d.lineStart (i + 1) ≤ d.lineStart j := startOf_mono d.lines hlt
  omega

/-- A position further on never means an earlier offset. -/
theorem offsetOf_mono (hrow : 1 ≤ p.row) (h : ¬ q < p) : d.offsetOf p ≤ d.offsetOf q := by
  rw [Position.lt_iff] at h
  have hle : p.row - 1 ≤ q.row - 1 := by omega
  cases hgetq : d.lines[q.row - 1]? with
  | none =>
    rw [offsetOf_of_none hgetq]
    exact d.offsetOf_le_length p
  | some lineq =>
    have hltq := (List.getElem?_eq_some_iff.mp hgetq).1
    have hltp : p.row - 1 < d.lines.length := by omega
    have hgetp := List.getElem?_eq_getElem hltp
    rw [offsetOf_of_get hgetp, offsetOf_of_get hgetq]
    rcases Nat.lt_or_ge p.row q.row with hlt | hge
    · have hstart := lineStart_lt hgetp (show p.row - 1 < q.row - 1 by omega)
      omega
    · have hrows : q.row - 1 = p.row - 1 := by omega
      rw [hrows] at hgetq ⊢
      obtain rfl : d.lines[p.row - 1] = lineq := Option.some.inj (hgetp.symm.trans hgetq)
      omega

/-- the text behind its last newline -/
def lastLine (s : List Char) : List Char := (s.reverse.takeWhile (· != '\n')).reverse

def aboveLastLine (s : List Char) : List Char := (s.reverse.dropWhile (· != '\n')).reverse

theorem length_lastLine (s : List Char) : (lastLine s).length = lastWidth s := List.length_reverse

theorem aboveLastLine_append (s : List Char) : aboveLastLine s ++ lastLine s = s := by
  rw [aboveLastLine, lastLine, ← List.reverse_append, List.takeWhile_append_dropWhile,
    List.reverse_reverse]

theorem drop_aboveLastLine (s : List Char) : s.drop (aboveLastLine s).length = lastLine s := by
  conv => lhs; rw [← aboveLastLine_append s]
  exact List.drop_left' (by rw [aboveLastLine_append])

theorem not_mem_lastLine (s : List Char) : '\n' ∉ lastLine s := by
  intro hmem
  have := List.mem_takeWhile_imp (List.mem_reverse.mp hmem)
  simp at this

/-- What stands above the last line is nothing or ends in a newline. -/
theorem lastWidth_aboveLastLine (s : List Char) : lastWidth (aboveLastLine s) = 0 := by
  rw [lastWidth, aboveLastLine, List.reverse_reverse]
  cases h : s.reverse.dropWhile (· != '\n') with
  | nil => rfl
  | cons c rest =>
    have hhead := List.head?_dropWhile_not (· != '\n') s.reverse
    rw [h] at hhead
    rw [List.takeWhile_cons_of_neg (by simpa using hhead)]
    rfl

/-- A text in two pieces, the first of which is nothing or ends in a newline and the second of which
has none, has the second for its last line. -/
theorem lastLine_append (hs : lastWidth s = 0) (ht : '\n' ∉ t) :
    lastLine (s ++ t) = t ∧ aboveLastLine (s ++ t) = s := by
  have hlen : (lastLine (s ++ t)).length = t.length := by
    rw [length_lastLine, Position.lastWidth_append, if_neg ht, hs, Nat.zero_add]
  obtain ⟨habove, hline⟩ := List.append_inj' (aboveLastLine_append (s ++ t)) hlen
  exact ⟨hline, habove⟩

theorem positionOf_length (d : Document) :
    d.positionOf d.length = ⟨d.chars.count '\n' + 1, lastWidth d.chars⟩ := by
  rw [positionOf, length, List.take_length]
  rfl

theorem positionOf_aboveLastLine (d : Document) :
    d.positionOf (aboveLastLine d.chars).length = ⟨d.chars.count '\n' + 1, 0⟩ := by
  have htake : d.chars.take (aboveLastLine d.chars).length = aboveLastLine d.chars :=
    (List.prefix_iff_eq_take.mp ⟨_, aboveLastLine_append d.chars⟩).symm
  have hcount : (aboveLastLine d.chars).count '\n' = d.chars.count '\n' := by
    conv => rhs; rw [← aboveLastLine_append d.chars]
    rw [List.count_append, List.count_eq_zero_of_not_mem (not_mem_lastLine d.chars), Nat.add_zero]
  rw [positionOf, htake, hcount]
  exact congrArg (Position.mk _) (lastWidth_aboveLastLine d.chars)

theorem positionOf_end (d : Document) :
    d.positionOf d.length = ⟨d.lineCount, ((d.lines[d.lineCount - 1]?).getD []).length⟩ := by
  have hcount : d.lineCount = d.chars.count '\n' + 1 := length_splitLines d.chars
  obtain ⟨line, hline⟩ := exists_endsIn d.chars d.length (Nat.le_refl _)
  rw [length, List.take_length] at hline
  have hget : d.lines[d.chars.count '\n']? = some line := hline.get
  have hbound := startOf_add_length_lt hline.get
  have hstart := hline.start
  have hwidth := hline.width
  rw [linesLength_splitLines] at hbound
  rw [positionOf_length, hcount, Nat.add_sub_cancel, hget, Option.getD_some, Position.mk.injEq]
  exact ⟨rfl, by omega⟩

theorem lineRange_last (d : Document) :
    d.lineRange d.lineCount =
      ⟨d.positionOf (aboveLastLine d.chars).length, d.positionOf d.length⟩ := by
  have hcount : d.lineCount = d.chars.count '\n' + 1 := length_splitLines d.chars
  have hrow : max 1 (min d.lineCount d.lineCount) = d.lineCount := by omega
  rw [lineRange, positionOf_aboveLastLine, positionOf_end, hrow, ← hcount]

end Document

end CaretSql
