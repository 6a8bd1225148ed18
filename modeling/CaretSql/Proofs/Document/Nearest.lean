import CaretSql.Proofs.Document.Lines

/-! Offsets and positions name the same places. The positions of offsets are those whose row the text
has and whose column the row has. Every other position means the nearest of them, and is looked up as
long as that takes no sum out of a word. -/

namespace CaretSql

namespace Document

variable {d : Document} {p q : Position} {s line : List Char} {i : Nat}

theorem splitLines_eq_splitOn (s : List Char) : splitLines s = s.splitOn '\n' := by
  induction s with
  | nil => rfl
  | cons c s ih =>
    rw [List.splitOn, List.splitOnP_cons_eq_if_modifyHead]
    by_cases hc : c = '\n'
    · rw [if_pos (by simpa using hc), hc, splitLines_newline, ih]
      rfl
    · obtain ⟨line, more, hs, hcs⟩ := splitLines_cons hc s
      rw [if_neg (by simpa using hc), hcs]
      rw [ih] at hs
      rw [List.splitOn] at hs
      rw [hs]
      rfl

theorem isPrefix_drop_startOf (h : (splitLines s)[i]? = some line) :
    line <+: s.drop (startOf (splitLines s) i) := by
  induction s generalizing i line with
  | nil =>
    obtain ⟨rfl, rfl⟩ : i = 0 ∧ [] = line := by
      simpa [splitLines, List.getElem?_singleton] using h
    exact List.nil_prefix
  | cons c s ih =>
    by_cases hc : c = '\n'
    · subst hc
      rw [splitLines_newline] at h ⊢
      cases i with
      | zero =>
        obtain rfl : [] = line := by simpa using h
        exact List.nil_prefix
      | succ i =>
        rw [startOf_succ, List.length_nil, Nat.zero_add, Nat.add_comm, List.drop_succ_cons]
        exact ih (by simpa using h)
    · obtain ⟨first, more, hs, hcs⟩ := splitLines_cons hc s
      rw [hs] at ih
      rw [hcs] at h ⊢
      cases i with
      | zero =>
        obtain rfl : c :: first = line := by simpa using h
        exact (List.prefix_cons_inj c).mpr (ih (i := 0) rfl)
      | succ i =>
        have hrest := ih (i := i + 1) (by simpa using h)
        rw [startOf_succ] at hrest
        rw [startOf_succ, List.length_cons, Nat.add_right_comm, List.drop_succ_cons]
        exact hrest

theorem slice_line (h : d.lines[i]? = some line) :
    d.slice (d.lineStart i) (d.lineStart i + line.length) = line :=
  slice_of_isPrefix (isPrefix_drop_startOf h)

theorem lineRange_of_get {row : Nat} (hpos : 1 ≤ row) (hget : d.lines[row - 1]? = some line) :
    d.lineRange row = ⟨⟨row, 0⟩, ⟨row, line.length⟩⟩ := by
  have hlt := (List.getElem?_eq_some_iff.mp hget).1
  have hrow : max 1 (min row d.lineCount) = row := by
    unfold lineCount
    omega
  rw [lineRange, hrow, hget, Option.getD_some]

theorem textIn_lineRange {row : Nat} (hpos : 1 ≤ row) (hget : d.lines[row - 1]? = some line) :
    d.textIn (d.lineRange row) = line := by
  have hordered : (⟨⟨row, 0⟩, ⟨row, line.length⟩⟩ : TextRange).normalized =
      ⟨⟨row, 0⟩, ⟨row, line.length⟩⟩ := by
    refine if_neg ?_
    rw [Position.lt_iff]
    simp
  rw [lineRange_of_get hpos hget, textIn, hordered, offsetOf_of_le (p := ⟨row, 0⟩) hget (Nat.zero_le _),
    offsetOf_of_le (p := ⟨row, line.length⟩) hget (Nat.le_refl _)]
  exact slice_line hget

structure InText (d : Document) (p : Position) : Prop where
  row : 1 ≤ p.row
  column : ∃ line, d.lines[p.row - 1]? = some line ∧ p.column ≤ line.length

theorem inText_lineRange {row : Nat} (hpos : 1 ≤ row) (hget : d.lines[row - 1]? = some line) :
    d.InText (d.lineRange row).start ∧ d.InText (d.lineRange row).stop := by
  rw [lineRange_of_get hpos hget]
  exact ⟨⟨hpos, line, hget, Nat.zero_le _⟩, ⟨hpos, line, hget, Nat.le_refl _⟩⟩

theorem inText_positionOf (d : Document) (o : Nat) : d.InText (d.positionOf o) := by
  rw [← d.positionOf_min o]
  obtain ⟨line, hline⟩ := exists_endsIn d.chars (min o d.length) (Nat.min_le_right _ _)
  exact ⟨Nat.le_add_left _ _, line, hline.get, hline.width⟩

/-- A row further down begins behind the end of the row. -/
theorem InText.offsetOf_lt (hp : d.InText p) (hq : d.InText q) (h : p.row < q.row) :
    d.offsetOf p < d.offsetOf q := by
  obtain ⟨hrow, line, hget, hle⟩ := hp
  obtain ⟨-, lineq, hgetq, hleq⟩ := hq
  have hstart := lineStart_lt hget (show p.row - 1 < q.row - 1 by omega)
  rw [offsetOf_of_le hget hle, offsetOf_of_le hgetq hleq]
  omega

theorem InText.eq_of_offsetOf (hp : d.InText p) (hq : d.InText q)
    (h : d.offsetOf p = d.offsetOf q) : p = q := by
  have hrow : p.row = q.row := by
    rcases Nat.lt_trichotomy p.row q.row with hlt | heq | hlt
    · have := hp.offsetOf_lt hq hlt
      omega
    · exact heq
    · have := hq.offsetOf_lt hp hlt
      omega
  obtain ⟨-, line, hget, hle⟩ := hp
  obtain ⟨-, lineq, hgetq, hleq⟩ := hq
  rw [offsetOf_of_le hget hle, offsetOf_of_le hgetq hleq, hrow] at h
  cases p
  cases q
  rw [Position.mk.injEq]
  exact ⟨hrow, Nat.add_left_cancel h⟩

/-- The positions of offsets are the positions that the text has. -/
theorem isPlace_iff : d.IsPlace p ↔ d.InText p := by
  constructor
  · intro h
    rw [← h]
    exact d.inText_positionOf _
  · intro h
    exact (d.inText_positionOf _).eq_of_offsetOf h (d.offsetOf_positionOf (d.offsetOf_le_length p))

/-- the position of the text that is meant by any: row 0 is the first row, a row past the last one
the end of the text, and a column past the end of its row the end of the row -/
def nearest (d : Document) (p : Position) : Position :=
  match d.lines[p.row - 1]? with
  | some line => ⟨max 1 p.row, min p.column line.length⟩
  | none => ⟨d.lineCount, ((d.lines[d.lineCount - 1]?).getD []).length⟩

theorem clamp_eq_nearest (d : Document) (p : Position) : d.clamp p = d.nearest p := by
  unfold clamp nearest
  cases hget : d.lines[p.row - 1]? with
  | none => rw [offsetOf_of_none hget, positionOf_end]
  | some line =>
    have hrow : max 1 p.row - 1 = p.row - 1 := by omega
    have hnear : d.lines[(⟨max 1 p.row, min p.column line.length⟩ : Position).row - 1]? =
        some line := by
      rw [← hget]
      exact congrArg (d.lines[·]?) hrow
    have hoffset : d.offsetOf p = d.offsetOf ⟨max 1 p.row, min p.column line.length⟩ := by
      rw [offsetOf_of_get hget, offsetOf_of_le hnear (Nat.min_le_right _ _)]
      exact congrArg (d.lineStart · + _) hrow.symm
    rw [hoffset]
    exact isPlace_iff.mpr ⟨Nat.le_max_left _ _, line, hnear, Nat.min_le_right _ _⟩

/-! What is looked up for places that may lie anywhere. -/

section Checked

variable {α : Type} {places : List Position} {a b : α} {o : Nat}

theorem checked_eq_ok : d.checked places a = .ok b ↔ (∀ p ∈ places, d.Fits p) ∧ a = b := by
  unfold checked
  split
  · next hfits => simp only [Except.ok.injEq, iff_true_intro hfits, true_and]
  · next hnot =>
    constructor
    · nofun
    · rintro ⟨hfits, -⟩
      exact absurd hfits hnot

theorem checked_eq_error : d.checked places a = .error ⟨⟩ ↔ ∃ p ∈ places, ¬ d.Fits p := by
  unfold checked
  split
  · next hfits =>
    constructor
    · nofun
    · rintro ⟨p, hmem, hp⟩
      exact absurd (hfits p hmem) hp
  · next hnot =>
    simp only [true_iff]
    by_contra hall
    exact hnot fun p hmem => by_contra fun hp => hall ⟨p, hmem, hp⟩

theorem checkedOffset_eq_ok : d.checkedOffset p = .ok o ↔ d.Fits p ∧ d.offsetOf p = o := by
  rw [checkedOffset, checked_eq_ok, List.forall_mem_singleton]

theorem checkedOffset_eq_error : d.checkedOffset p = .error ⟨⟩ ↔ ¬ d.Fits p := by
  simp [checkedOffset, checked_eq_error]

theorem fits_of_get (h : d.lines[p.row - 1]? = some line) :
    d.Fits p ↔ p.column ≤ line.length ∨ d.lineStart (p.row - 1) + p.column < wordSize := by
  rw [Fits, h]
  constructor
  · intro hall
    exact hall line rfl
  · rintro hline _ ⟨⟩
    exact hline

theorem fits_of_none (h : d.lines[p.row - 1]? = none) : d.Fits p := by
  rw [Fits, h]
  nofun

/-- The places of the text are looked up without overflow. -/
theorem InText.fits (h : d.InText p) : d.Fits p := by
  obtain ⟨-, line, hget, hle⟩ := h
  exact (fits_of_get hget).mpr (.inl hle)

end Checked

end Document

/-- Offsets and positions are the same thing, as far as a position has an offset at all. To the position
of an offset and back leads to the offset, and later offsets have later positions. A position whose
sum is a word has for its offset that of the nearest position of the text, which is the same one
exactly if the text has it, and a position further on never means an earlier offset. The range of a
row holds the piece of the text between two newlines. -/
theorem offsets_are_positions (d : Document) :
    (∀ o ≤ d.length, d.checkedOffset (d.positionOf o) = .ok o) ∧
    (∀ o o', o < o' → o' ≤ d.length → d.positionOf o < d.positionOf o') ∧
    (∀ p o, d.checkedOffset p = .ok o ↔
      d.Fits p ∧ o ≤ d.length ∧ d.positionOf o = d.nearest p) ∧
    (∀ p, (∃ o, d.checkedOffset p = .ok o ∧ d.positionOf o = p) ↔ d.InText p) ∧
    (∀ p q o o', 1 ≤ p.row → 1 ≤ q.row → d.checkedOffset p = .ok o → d.checkedOffset q = .ok o' →
      ¬ q < p → o ≤ o') ∧
    ∀ row, 1 ≤ row → row ≤ d.lineCount → ∃ s, d.checkedTextIn (d.lineRange row) = .ok s ∧
      (d.chars.splitOn '\n')[row - 1]? = some s := by
  refine ⟨?_, fun o o' hlt ho' => Document.positionOf_lt hlt ho', ?_, ?_, ?_, ?_⟩
  · intro o ho
    exact Document.checkedOffset_eq_ok.mpr ⟨(d.inText_positionOf o).fits, d.offsetOf_positionOf ho⟩
  · intro p o
    rw [Document.checkedOffset_eq_ok, ← d.clamp_eq_nearest]
    constructor
    · rintro ⟨hfits, rfl⟩
      exact ⟨hfits, d.offsetOf_le_length p, rfl⟩
    · rintro ⟨hfits, hle, hposition⟩
      have hoffset := congrArg d.offsetOf hposition
      rw [d.offsetOf_positionOf hle, Document.clamp,
        d.offsetOf_positionOf (d.offsetOf_le_length p)] at hoffset
      exact ⟨hfits, hoffset.symm⟩
  · intro p
    rw [← Document.isPlace_iff]
    constructor
    · rintro ⟨o, ho, hposition⟩
      obtain ⟨-, rfl⟩ := Document.checkedOffset_eq_ok.mp ho
      exact hposition
    · intro hplace
      have hfits := (Document.isPlace_iff.mp hplace).fits
      exact ⟨_, Document.checkedOffset_eq_ok.mpr ⟨hfits, rfl⟩, hplace⟩
  · intro p q o o' hrow _ ho ho' h
    obtain ⟨-, rfl⟩ := Document.checkedOffset_eq_ok.mp ho
    obtain ⟨-, rfl⟩ := Document.checkedOffset_eq_ok.mp ho'
    exact Document.offsetOf_mono hrow h
  · intro row hpos hle
    have hlt : row - 1 < d.lines.length := by
      change row ≤ d.lines.length at hle
      omega
    have hget := List.getElem?_eq_getElem hlt
    have hends := Document.inText_lineRange hpos hget
    refine ⟨_, Document.checked_eq_ok.mpr ⟨?_, rfl⟩, ?_⟩
    · simp [hends.1.fits, hends.2.fits]
    · rw [Document.textIn_lineRange hpos hget, ← Document.splitLines_eq_splitOn]
      exact hget

/-- In a text of three rows, the second of them empty. -/
theorem offsets_are_positions_of_three_rows :
    let d : Document := ⟨['a', 'b', '\n', '\n', 'c']⟩
    d.checkedOffset (d.positionOf 3) = .ok 3 ∧ d.positionOf 2 < d.positionOf 3 ∧
      d.checkedOffset ⟨0, 9⟩ = .ok 2 ∧ d.checkedOffset ⟨7, wordSize⟩ = .ok 5 ∧
      (∃ o, d.checkedOffset ⟨3, 1⟩ = .ok o ∧ d.positionOf o = ⟨3, 1⟩) ∧ 2 ≤ 3 ∧
      ∃ s, d.checkedTextIn (d.lineRange 3) = .ok s ∧ some ['c'] = some s := by
  intro d
  obtain ⟨back, later, nearest, same, mono, rows⟩ := offsets_are_positions d
  have hfirst : d.checkedOffset ⟨0, 9⟩ = .ok 2 :=
    (nearest ⟨0, 9⟩ 2).mpr ⟨by decide, by decide, by decide⟩
  refine ⟨back 3 (by decide), later 2 3 (by decide) (by decide), hfirst,
    (nearest ⟨7, wordSize⟩ 5).mpr ⟨by decide, by decide, by decide⟩,
    (same ⟨3, 1⟩).mpr ⟨by decide, ['c'], by decide, by decide⟩,
    mono ⟨1, 9⟩ ⟨2, 0⟩ 2 3 (by decide) (by decide) (by decide) (by decide) (by decide), ?_⟩
  exact rows 3 (by decide) (by decide)

/-- The last column of all has no offset in the second row, where a column past the end of the row is
to mean the end. -/
theorem last_column_has_no_offset :
    ¬ ∀ (d : Document) (p : Position), p.row < wordSize → p.column < wordSize →
      ∃ o, d.checkedOffset p = .ok o ∧ d.positionOf o = d.nearest p := by
  intro h
  obtain ⟨o, ho, -⟩ := h ⟨['a', '\n', 'b']⟩ ⟨2, wordSize - 1⟩ (by decide) (by decide)
  exact absurd (Document.checkedOffset_eq_ok.mp ho).1 (by decide)

end CaretSql
