import CaretSql.Proofs.Character.Trim
import CaretSql.Proofs.CommandLine.Anchor
import CaretSql.Proofs.Text.Numeral
import CaretSql.Proofs.Text.Part

/-! How places are written on the command line: two numerals with a colon between them, and blanks
around them or not. What is written like this is read if it is a place that a text can have, and
nothing else is. -/

namespace CaretSql

variable {s before after : List Char} {c : Char} {n : Nat} {p a b : Position}

theorem splitAtFirst?_append (h : c ∉ before) (after : List Char) :
    splitAtFirst? c (before ++ c :: after) = some (before, after) := by
  unfold splitAtFirst?
  dsimp only
  rw [Text.takeWhile_ne h, if_pos (by simp), ← List.drop_drop, List.drop_left' rfl]
  rfl

theorem splitAtFirst?_of_not_mem (h : c ∉ s) : splitAtFirst? c s = none := by
  unfold splitAtFirst?
  dsimp only
  rw [Text.takeWhile_ne_all h, if_neg (Nat.lt_irrefl _)]

/-- A text is split at a character if it holds one, and what stands before it holds none. -/
theorem splitAtFirst?_eq_some_iff :
    splitAtFirst? c s = some (before, after) ↔ s = before ++ c :: after ∧ c ∉ before := by
  constructor
  · intro h
    have hmem : c ∈ s := by
      by_contra hfree
      rw [splitAtFirst?_of_not_mem hfree] at h
      cases h
    obtain ⟨first, rest, rfl, hfree⟩ := List.eq_append_cons_of_mem hmem
    rw [splitAtFirst?_append hfree] at h
    cases h
    exact ⟨rfl, hfree⟩
  · rintro ⟨rfl, hfree⟩
    exact splitAtFirst?_append hfree after

theorem Text.Numeral.Spells.mem (h : Spells s n) (hc : c ∈ s) : c = '+' ∨ c.isDigit = true := by
  cases h with
  | bare h => exact Or.inr (h.isDigit c hc)
  | plus h => exact (List.mem_cons.mp hc).imp_right (h.isDigit c)

theorem Text.Numeral.Spells.not_mem (h : Spells s n) (hplus : c ≠ '+') (hdigit : c.isDigit = false) :
    c ∉ s := by
  intro hc
  rcases h.mem hc with heq | hmem
  · exact hplus heq
  · rw [hdigit] at hmem
    cases hmem

theorem Text.Numeral.Spells.isBlank (h : Spells s n) : ∀ c ∈ s, Character.isBlank c = false := by
  intro c hc
  rw [← Bool.not_eq_true]
  intro hblank
  have hother := Character.of_isBlank (P := fun c => c ≠ '+' ∧ c.isDigit = false) (by decide) hblank
  exact h.not_mem hother.1 hother.2 hc

namespace Position

inductive Numerals : List Char → Position → Prop
  | colon {row column : List Char} {p : Position} (hrow : Text.Numeral.Spells row p.row)
    (hcolumn : Text.Numeral.Spells column p.column) : Numerals (row ++ ':' :: column) p

inductive Written : List Char → Position → Prop
  | between {before s after : List Char} {p : Position}
    (hbefore : ∀ c ∈ before, Character.isBlank c = true) (h : Numerals s p)
    (hafter : ∀ c ∈ after, Character.isBlank c = true) : Written (before ++ s ++ after) p

/-- A place that a text can have: rows count from one, and both numbers are words. -/
structure Addressable (p : Position) : Prop where
  row_pos : 1 ≤ p.row
  row_lt : p.row < wordSize
  column_lt : p.column < wordSize

theorem Numerals.isBlank (h : Numerals s p) : ∀ c ∈ s, Character.isBlank c = false := by
  obtain ⟨hrow, hcolumn⟩ := h
  intro c hc
  rcases List.mem_append.mp hc with hc | hc
  · exact hrow.isBlank c hc
  · rcases List.mem_cons.mp hc with rfl | hc
    · decide
    · exact hcolumn.isBlank c hc

theorem Numerals.colon_mem (h : Numerals s p) : ':' ∈ s := by
  obtain ⟨hrow, hcolumn⟩ := h
  simp

theorem written_iff : Written s p ↔ Numerals (Character.trim s) p := by
  constructor
  · rintro ⟨hbefore, h, hafter⟩
    rwa [Character.trim_between hbefore h.isBlank (List.ne_nil_of_mem h.colon_mem) hafter]
  · intro h
    have hcolon := Character.mem_of_mem_trim h.colon_mem
    rw [Character.trim_split ⟨':', hcolon, by decide⟩]
    refine .between (fun c hc => List.mem_takeWhile_imp hc) h fun c hc => ?_
    exact List.mem_takeWhile_imp (List.mem_reverse.mp hc)

theorem parse_eq_ok_iff : parse s = .ok p ↔ Written s p ∧ p.Addressable := by
  rw [parse_eq_ok, written_iff]
  constructor
  · rintro ⟨row, column, hsplit, hrow, hcolumn, hzero⟩
    obtain ⟨hwhole, -⟩ := splitAtFirst?_eq_some_iff.mp hsplit
    obtain ⟨hrow, hrowlt⟩ := Text.Numeral.parse?_eq_some_iff.mp hrow
    obtain ⟨hcolumn, hcolumnlt⟩ := Text.Numeral.parse?_eq_some_iff.mp hcolumn
    rw [hwhole]
    exact ⟨.colon hrow hcolumn, Nat.one_le_iff_ne_zero.mpr hzero, hrowlt, hcolumnlt⟩
  · rintro ⟨h, haddr⟩
    generalize Character.trim s = t at h
    obtain @⟨row, column, _, hrow, hcolumn⟩ := h
    have hfree : ':' ∉ row := hrow.not_mem (by decide) (by decide)
    exact ⟨row, column, splitAtFirst?_append hfree column,
      Text.Numeral.parse?_eq_some_iff.mpr ⟨hrow, haddr.row_lt⟩,
      Text.Numeral.parse?_eq_some_iff.mpr ⟨hcolumn, haddr.column_lt⟩,
      Nat.one_le_iff_ne_zero.mp haddr.row_pos⟩

theorem toList_text (p : Position) :
    p.text.toList = Nat.toDigits 10 p.row ++ ':' :: Nat.toDigits 10 p.column := by
  simp [text, Nat.toString_eq_repr, Nat.toList_repr]

theorem numerals_text (p : Position) : Numerals p.text.toList p := by
  rw [toList_text]
  exact .colon (.bare (Text.Numeral.decimal_toDigits _)) (.bare (Text.Numeral.decimal_toDigits _))

/-- Without a hyphen in it, the text of a place can stand before one. -/
theorem Numerals.hyphen_not_mem (h : Numerals s p) : '-' ∉ s := by
  obtain ⟨hrow, hcolumn⟩ := h
  simp [hrow.not_mem (c := '-') (by decide) (by decide),
    hcolumn.not_mem (c := '-') (by decide) (by decide)]

theorem parse_text (h : p.Addressable) : parse p.text.toList = .ok p := by
  have hwritten : Written ([] ++ p.text.toList ++ []) p := .between nofun (numerals_text p) nofun
  rw [List.nil_append, List.append_nil] at hwritten
  exact parse_eq_ok_iff.mpr ⟨hwritten, h⟩

end Position

theorem TextRange.parse_text (ha : a.Addressable) (hb : b.Addressable) :
    TextRange.parse (a.text ++ "-" ++ b.text).toList = .ok ⟨a, b⟩ := by
  have hwhole : (a.text ++ "-" ++ b.text).toList = a.text.toList ++ '-' :: b.text.toList := by simp
  rw [hwhole, TextRange.parse, splitAtFirst?_append a.numerals_text.hyphen_not_mem]
  dsimp only
  rw [Position.parse_text ha, Position.parse_text hb]
  rfl

/-- A text is read as a place exactly if it is written as that place and the place is one that a text
can have; any other text is an error. The texts of places are read as those places, and two of them
with a hyphen between them as the range from the one to the other, whichever comes first. -/
theorem written_places_are_read :
    (∀ (s : List Char) (p : Position), Position.parse s = .ok p ↔ p.Written s ∧ p.Addressable) ∧
      (∀ s : List Char, (¬ ∃ p : Position, p.Written s ∧ p.Addressable) →
        ∃ e, Position.parse s = .error e) ∧
      (∀ p : Position, p.Addressable → Position.parse p.text.toList = .ok p) ∧
      ∀ (c : CommandLine) (a b : Position), a.Addressable → b.Addressable →
        c.select = some (a.text ++ "-" ++ b.text).toList → c.selection = .ok (some ⟨a, b⟩) := by
  refine ⟨fun s p => Position.parse_eq_ok_iff, ?_, fun p => Position.parse_text, ?_⟩
  · intro s hnone
    cases hparse : Position.parse s with
    | error e => exact ⟨e, rfl⟩
    | ok p => exact absurd ⟨p, Position.parse_eq_ok_iff.mp hparse⟩ hnone
  · intro c a b ha hb hselect
    rw [CommandLine.selection, hselect]
    dsimp only
    rw [TextRange.parse_text ha hb]
    rfl

/-- The last place of all, a text without a row, and a range that runs backwards. -/
theorem written_places_are_read_at_the_ends :
    let last : Position := ⟨wordSize - 1, wordSize - 1⟩
    Position.parse last.text.toList = .ok last ∧
      (¬ ∃ p : Position, p.Written "0:4".toList ∧ p.Addressable) ∧
      (∃ e, Position.parse "0:4".toList = .error e) ∧
      CommandLine.selection { select := some (last.text ++ "-" ++ Position.origin.text).toList } =
        .ok (some ⟨last, .origin⟩) := by
  intro last
  have hlast : last.Addressable := ⟨by decide, by decide, by decide⟩
  have horigin : Position.origin.Addressable := ⟨by decide, by decide, by decide⟩
  obtain ⟨hiff, herror, htext, hrange⟩ := written_places_are_read
  have hnone : ¬ ∃ p : Position, p.Written "0:4".toList ∧ p.Addressable := by
    rintro ⟨p, h⟩
    have hparse := (hiff _ p).mpr h
    rw [show Position.parse "0:4".toList = .error .rowZero by decide +kernel] at hparse
    cases hparse
  exact ⟨htext last hlast, hnone, herror _ hnone, hrange _ last .origin hlast horigin rfl⟩

end CaretSql
