import CaretSql.Editor
import CaretSql.Proofs.CommandLine.Anchor
import CaretSql.Proofs.Document.Nearest

/-! A place as it is written on the command line, looked up in a text. Its column may be so large that
the sum with the start of its row is no word, and then the program ends. In every other case the place
means one in its row. -/

namespace CaretSql

namespace Document

variable {d : Document} {p : Position} {line : List Char}

theorem offsetOf_inRow (hget : d.lines[p.row - 1]? = some line) :
    d.lineStart (p.row - 1) ≤ d.offsetOf p ∧
      d.offsetOf p ≤ d.lineStart (p.row - 1) + line.length := by
  rw [offsetOf_of_get hget]
  omega

theorem fits_of_first_row (hrow : p.row = 1) (hcolumn : p.column < wordSize) : d.Fits p := by
  have hstart : d.lineStart (p.row - 1) = 0 := by
    rw [hrow]
    rfl
  intro line _
  rw [hstart, Nat.zero_add]
  exact .inr hcolumn

theorem row_clamp (hget : d.lines[p.row - 1]? = some line) (hrow : 1 ≤ p.row) :
    (d.clamp p).row = p.row := by
  rw [clamp_eq_nearest, nearest, hget]
  exact Nat.max_eq_right hrow

theorem checked_singleton {α : Type} (d : Document) (p : Position) (a : α) :
    d.checked [p] a = (d.checkedOffset p).map fun _ => a := by
  unfold checkedOffset checked
  split <;> rfl

end Document

/-- A place that was read from the command line has an offset in any text, unless the sum of its column
and the start of its row is no word, and then a caret cannot be put there either. The first row and
the rows below the last have no such columns. An offset lies in the row of the place, or is the end of
the text if there is no such row, and a caret that is put there ends up in the row. -/
theorem written_place_lies_in_row {s : List Char} {p : Position} (h : Position.parse s = .ok p)
    (text : List Char) :
    let d : Document := ⟨text⟩
    let start := d.lineStart (p.row - 1)
    (d.lineCount < p.row → d.checkedOffset p = .ok d.length) ∧
      ∀ line, d.lines[p.row - 1]? = some line →
        (p.row = 1 → ∃ o, d.checkedOffset p = .ok o) ∧
        (∀ o, d.checkedOffset p = .ok o → start ≤ o ∧ o ≤ start + line.length ∧
          ∃ e, Editor.checkedMoveCaret p { text } = .ok e ∧ e.caret.row = p.row) ∧
        (d.checkedOffset p = .error ⟨⟩ ↔ line.length < p.column ∧ wordSize ≤ start + p.column) ∧
        (d.checkedOffset p = .error ⟨⟩ → Editor.checkedMoveCaret p { text } = .error ⟨⟩) := by
  intro d start
  have hmove : Editor.checkedMoveCaret p { text } =
      (d.checkedOffset p).map fun _ => ({ text } : Editor).moveCaret p := d.checked_singleton p _
  constructor
  · intro hbelow
    have hnone : d.lines[p.row - 1]? = none :=
      List.getElem?_eq_none_iff.mpr (Nat.le_sub_one_of_lt hbelow)
    exact Document.checkedOffset_eq_ok.mpr
      ⟨Document.fits_of_none hnone, Document.offsetOf_of_none hnone⟩
  · intro line hget
    refine ⟨?_, ?_, ?_, ?_⟩
    · intro hfirst
      have hfits : d.Fits p := Document.fits_of_first_row hfirst (Position.column_of_parse h)
      exact ⟨_, Document.checkedOffset_eq_ok.mpr ⟨hfits, rfl⟩⟩
    · intro o ho
      rw [ho] at hmove
      obtain ⟨-, rfl⟩ := Document.checkedOffset_eq_ok.mp ho
      obtain ⟨hstart, hstop⟩ := Document.offsetOf_inRow hget
      exact ⟨hstart, hstop, _, hmove, Document.row_clamp hget (Position.row_of_parse h)⟩
    · rw [Document.checkedOffset_eq_error, Document.fits_of_get hget]
      omega
    · intro hrefused
      rw [hmove, hrefused]
      rfl

/-- A column far behind the second of two rows. -/
theorem written_place_lies_in_row_of_two :
    let d : Document := ⟨['a', 'b', '\n', 'c']⟩
    Position.parse " 2:+9".toList = .ok ⟨2, 9⟩ ∧ d.lines[1]? = some ['c'] ∧
      d.checkedOffset ⟨2, 9⟩ = .ok 4 ∧
      ∃ e, Editor.checkedMoveCaret ⟨2, 9⟩ { text := d.chars } = .ok e ∧ e.caret.row = 2 := by
  intro d
  have hparse : Position.parse " 2:+9".toList = .ok ⟨2, 9⟩ := by decide +kernel
  have hoffset : d.checkedOffset ⟨2, 9⟩ = .ok 4 := by decide
  obtain ⟨-, hinrow, -, -⟩ := (written_place_lies_in_row hparse d.chars).2 ['c'] (by decide)
  obtain ⟨-, -, hcaret⟩ := hinrow 4 hoffset
  exact ⟨hparse, by decide, hoffset, hcaret⟩

/-- At the last column that can be written in the second row no caret can be put. -/
theorem last_column_is_refused :
    ¬ ∀ (s text : List Char) (p : Position), Position.parse s = .ok p →
      p.row ≤ Document.lineCount ⟨text⟩ →
      ∃ e, Editor.checkedMoveCaret p { text } = .ok e ∧ e.caret.row = p.row := by
  intro h
  have hparse : Position.parse "2:18446744073709551615".toList = .ok ⟨2, wordSize - 1⟩ := by
    decide +kernel
  obtain ⟨e, he, -⟩ := h _ ['a', ';', '\n', 'b'] _ hparse (by decide)
  have hrefused : Editor.checkedMoveCaret ⟨2, wordSize - 1⟩ { text := ['a', ';', '\n', 'b'] } =
      .error ⟨⟩ := by decide +kernel
  cases hrefused.symm.trans he

end CaretSql
