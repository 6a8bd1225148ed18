import CaretSql.CommandLine.Basic
import CaretSql.Proofs.Document.Lines
import CaretSql.Proofs.Text.Numeral

/-! What a command line runs at: the selection as it was given, or else the caret. Rows start at 1
wherever a place was read, and its column is a word. -/

namespace CaretSql

section

variable {α β ε ε' : Type} {x : Except ε α} {a : α} {b : β}

theorem bind_eq_ok {f : α → Except ε β} : x >>= f = .ok b ↔ ∃ a, x = .ok a ∧ f a = .ok b := by
  cases x <;> simp [bind, Except.bind]

theorem map_eq_ok {f : α → β} : x.map f = .ok b ↔ ∃ a, x = .ok a ∧ f a = b := by
  cases x <;> simp [Except.map]

theorem mapError_eq_ok {f : ε → ε'} : x.mapError f = .ok a ↔ x = .ok a := by
  cases x <;> simp [Except.mapError]

/-- A check that was passed leaves what stands behind it. -/
theorem check_eq_ok {p : Prop} [Decidable p] {e : ε} {f : β → Except ε α} :
    (if p then throw e >>= f else x) = .ok a ↔ ¬ p ∧ x = .ok a := by
  by_cases h : p
  · simp [h, throw, throwThe, MonadExceptOf.throw, bind, Except.bind]
  · simp [h]

end

namespace Position

variable {s : List Char} {p : Position}

/-- A place is read from two numerals with a colon between them, the first of which is not zero. -/
theorem parse_eq_ok : parse s = .ok p ↔ ∃ row column,
    splitAtFirst? ':' (Character.trim s) = some (row, column) ∧
      Text.Numeral.parse? wordSize row = some p.row ∧
      Text.Numeral.parse? wordSize column = some p.column ∧ p.row ≠ 0 := by
  unfold parse
  constructor
  · intro h
    split at h
    · cases h
    · next row column hsplit =>
      split at h
      · cases h
      · next r hr =>
        split at h
        · cases h
        · next c hc =>
          split at h
          · cases h
          · next hrow =>
            obtain rfl := Except.ok.inj h
            exact ⟨row, column, hsplit, hr, hc, hrow⟩
  · rintro ⟨row, column, hsplit, hr, hc, hrow⟩
    simp only [hsplit, hr, hc, hrow, if_false]

theorem row_of_parse (h : parse s = .ok p) : 1 ≤ p.row := by
  obtain ⟨row, column, -, -, -, hrow⟩ := parse_eq_ok.mp h
  exact Nat.one_le_iff_ne_zero.mpr hrow

theorem column_of_parse (h : parse s = .ok p) : p.column < wordSize := by
  obtain ⟨row, column, -, -, hcolumn, -⟩ := parse_eq_ok.mp h
  exact (Text.Numeral.parse?_eq_some_iff.mp hcolumn).2

end Position

theorem TextRange.rows_of_parse {s : List Char} {r : TextRange} (h : TextRange.parse s = .ok r) :
    1 ≤ r.start.row ∧ 1 ≤ r.stop.row := by
  unfold TextRange.parse at h
  split at h
  · cases h
  · obtain ⟨p, hstart, h⟩ := bind_eq_ok.mp h
    obtain ⟨q, hstop, h⟩ := bind_eq_ok.mp h
    obtain rfl := Except.ok.inj h
    exact ⟨Position.row_of_parse hstart, Position.row_of_parse hstop⟩

namespace CommandLine

variable {c : CommandLine} {r : TextRange}

/-- what the arguments tell to run at, not moved to any text -/
def anchor (c : CommandLine) : Except Invalid Anchor := do
  match ← c.selection with
  | some r => return .selection r
  | none => return .caret (← c.caret)

theorem rows_of_selection (h : c.selection = .ok (some r)) : 1 ≤ r.start.row ∧ 1 ≤ r.stop.row := by
  unfold selection at h
  split at h
  · cases h
  · obtain ⟨r', hparse, heq⟩ := map_eq_ok.mp (mapError_eq_ok.mp h)
    obtain rfl := Option.some.inj heq
    exact TextRange.rows_of_parse hparse

/-- Arguments that mean something tell what to run at: a selection if there is one, else a caret. -/
theorem anchor_of_validate (h : c.validate = .ok ()) :
    (∃ r, c.selection = .ok (some r) ∧ c.anchor = .ok (.selection r)) ∨
      ∃ p, c.selection = .ok none ∧ c.caret = .ok p ∧ c.anchor = .ok (.caret p) := by
  obtain ⟨p, hcaret, h⟩ := bind_eq_ok.mp h
  obtain ⟨selection, hselection, -⟩ := bind_eq_ok.mp h
  cases selection with
  | some r => exact Or.inl ⟨r, hselection, bind_eq_ok.mpr ⟨some r, hselection, rfl⟩⟩
  | none =>
    exact Or.inr ⟨p, hselection, hcaret,
      bind_eq_ok.mpr ⟨none, hselection, bind_eq_ok.mpr ⟨p, hcaret, rfl⟩⟩⟩

end CommandLine

end CaretSql
