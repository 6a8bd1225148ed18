import CaretSql.Proofs.Document.Nearest
import CaretSql.Proofs.Request.Highlight
import Mathlib.Order.Bounds.Basic

/-! The piece of a text that is highlighted for an error. The text may be another than the statement
was taken from, and the statement any at all: the place of the error is always one of the text, and
the highlight is the piece that stands there. -/

namespace CaretSql

namespace ErrorLocation

/-- The first `n` characters of a text are quoted: the last of them closes the quote that the first
opens, which none of the others does, and it is not doubled. -/
def Quoted (s : List Char) (n : Nat) : Prop :=
  ∃ quote inside behind, s = quote :: (inside ++ quote :: behind) ∧ Unclosed quote inside ∧
    behind.head? ≠ some quote ∧ n = inside.length + 2

inductive Piece : List Char → Nat → Prop
  | nothing : Piece [] 0
  | blank {c : Char} {rest : List Char} (h : Character.isBlank c = true) : Piece (c :: rest) 0
  /-- the longest run of word characters -/
  | word {c : Char} {rest : List Char} {n : Nat} (h : isWordChar c = true)
      (hn : IsGreatest
        {n | n ≤ (c :: rest).length ∧ ∀ x ∈ (c :: rest).take n, isWordChar x = true} n) :
      Piece (c :: rest) n
  /-- the shortest piece that closes the quote -/
  | closed {c : Char} {rest : List Char} {n : Nat} (h : c = '\'' ∨ c = '"')
      (hn : IsLeast {n | Quoted (c :: rest) n} n) : Piece (c :: rest) n
  /-- a quote that is never closed takes all the rest -/
  | unclosed {c : Char} {rest : List Char} (h : c = '\'' ∨ c = '"')
      (hn : ∀ n, ¬ Quoted (c :: rest) n) : Piece (c :: rest) (c :: rest).length
  | single {c : Char} {rest : List Char} (hblank : Character.isBlank c = false)
      (hword : isWordChar c = false) (hquote : ¬ (c = '\'' ∨ c = '"')) : Piece (c :: rest) 1

variable {quote c : Char} {s rest inside behind : List Char} {n : Nat}

theorem isGreatest_takeWhile (p : Char → Bool) (s : List Char) :
    IsGreatest {n | n ≤ s.length ∧ ∀ c ∈ s.take n, p c = true} (s.takeWhile p).length := by
  constructor
  · refine ⟨(List.takeWhile_prefix p).length_le, ?_⟩
    rw [← List.prefix_iff_eq_take.mp (List.takeWhile_prefix p)]
    exact fun c hc => List.mem_takeWhile_imp hc
  · rintro n ⟨hle, hall⟩
    conv => rhs; rw [← List.take_append_drop n s, List.takeWhile_append_of_pos hall]
    rw [List.length_append, List.length_take, Nat.min_eq_left hle]
    exact Nat.le_add_right n _

theorem quotedWidth_closed (h : Unclosed quote inside) (hbehind : behind.head? ≠ some quote) :
    quotedWidth quote (inside ++ quote :: behind) = inside.length + 1 := by
  rw [h.quotedWidth_append]
  cases behind with
  | nil => rfl
  | cons d behind =>
    have hd : d ≠ quote := by simpa using hbehind
    rw [quotedWidth, if_pos rfl, if_neg hd]

/-- A text either does not close the quote before it or does so at some quote that is not doubled. -/
theorem unclosed_or_closed (quote : Char) (s : List Char) :
    Unclosed quote s ∨ ∃ inside behind, s = inside ++ quote :: behind ∧ Unclosed quote inside ∧
      behind.head? ≠ some quote := by
  fun_induction quotedWidth quote s with
  | case1 => exact .inl .nil
  | case2 c =>
    by_cases hc : c = quote
    · exact .inr ⟨[], [], by rw [hc]; rfl, .nil, by simp⟩
    · exact .inl (.other hc .nil)
  | case3 rest ih =>
    rcases ih with hopen | ⟨inside, behind, rfl, hinside, hbehind⟩
    · exact .inl (.doubled hopen)
    · exact .inr ⟨quote :: quote :: inside, behind, rfl, .doubled hinside, hbehind⟩
  | case4 d rest hd => exact .inr ⟨[], d :: rest, rfl, .nil, by simpa using hd⟩
  | case5 c d rest hc ih =>
    rcases ih with hopen | ⟨inside, behind, hs, hinside, hbehind⟩
    · exact .inl (.other hc hopen)
    · exact .inr ⟨c :: inside, behind, by rw [hs]; rfl, .other hc hinside, hbehind⟩

theorem Quoted.eq_quotedWidth (h : Quoted (c :: rest) n) : n = quotedWidth c rest + 1 := by
  obtain ⟨quote, inside, behind, hs, hinside, hbehind, rfl⟩ := h
  obtain ⟨rfl, rfl⟩ := List.cons.inj hs
  rw [quotedWidth_closed hinside hbehind]

/-- A quote has one closing quote at most, so the first piece that it closes is the only one. -/
theorem isLeast_quoted (h : Quoted (c :: rest) n) : IsLeast {n | Quoted (c :: rest) n} n :=
  ⟨h, fun _ hother => Nat.le_of_eq (h.eq_quotedWidth.trans hother.eq_quotedWidth.symm)⟩

theorem piece_quote (h : c = '\'' ∨ c = '"') : Piece (c :: rest) (quotedWidth c rest + 1) := by
  by_cases hclosed : ∃ n, Quoted (c :: rest) n
  · obtain ⟨n, hn⟩ := hclosed
    rw [← hn.eq_quotedWidth]
    exact .closed h (isLeast_quoted hn)
  · have hnone : ∀ n, ¬ Quoted (c :: rest) n := fun n hn => hclosed ⟨n, hn⟩
    rcases unclosed_or_closed c rest with hopen | ⟨inside, behind, rfl, hinside, hbehind⟩
    · rw [quotedWidth_unclosed hopen]
      exact .unclosed h hnone
    · exact absurd ⟨c, inside, behind, rfl, hinside, hbehind, rfl⟩ (hnone _)

theorem piece_width (s : List Char) : Piece s (width s) := by
  fun_cases width s with
  | case1 => exact .nothing
  | case2 c rest hblank => exact .blank hblank
  | case3 c rest hblank hword =>
    have hrun := isGreatest_takeWhile isWordChar (c :: rest)
    rw [List.takeWhile_cons_of_pos hword] at hrun
    exact .word hword hrun
  | case4 c rest hblank hword hquote => exact piece_quote hquote
  | case5 c rest hblank hword hquote =>
    exact .single (by simpa using hblank) (by simpa using hword) hquote

theorem isWordChar_of_isBlank (h : Character.isBlank c = true) :
    isWordChar c = false ∧ ¬ (c = '\'' ∨ c = '"') := by
  have hseparates : Separates [c] := separates_of_isBlank (by simp [h])
  obtain ⟨hword, hplain, hdouble⟩ := hseparates c rfl
  exact ⟨hword, not_or.mpr ⟨hplain, hdouble⟩⟩

theorem Piece.eq_width (h : Piece s n) : n = width s := by
  cases h with
  | nothing => rfl
  | blank h => rw [width, if_pos h]
  | @word c rest _ h hn =>
    have hblank : ¬ Character.isBlank c = true := by
      intro hblank
      rw [(isWordChar_of_isBlank hblank).1] at h
      cases h
    have hrun := isGreatest_takeWhile isWordChar (c :: rest)
    rw [hn.unique hrun, width, if_neg hblank, if_pos h, List.takeWhile_cons_of_pos h,
      List.length_cons]
  | @closed c rest _ h hn =>
    obtain ⟨hblank, hword⟩ := plain_quote h
    rw [hn.1.eq_quotedWidth, width, if_neg (by simp [hblank]), if_neg (by simp [hword]), if_pos h]
  | @unclosed c rest h hn =>
    obtain ⟨hblank, hword⟩ := plain_quote h
    rw [width, if_neg (by simp [hblank]), if_neg (by simp [hword]), if_pos h]
    rcases unclosed_or_closed c rest with hopen | ⟨inside, behind, rfl, hinside, hbehind⟩
    · rw [quotedWidth_unclosed hopen, List.length_cons]
    · exact absurd ⟨c, inside, behind, rfl, hinside, hbehind, rfl⟩ (hn _)
  | @single c rest hblank hword hquote =>
    rw [width, if_neg (by simp [hblank]), if_neg (by simp [hword]), if_neg hquote]

theorem piece_iff : Piece s n ↔ n = width s :=
  ⟨Piece.eq_width, fun h => h ▸ piece_width s⟩

/-- The quote in the middle is doubled and does not close the piece. -/
example : Piece "'a''b' c".toList 6 := piece_iff.mpr (by decide +kernel)

/-- the location of an error, refused if the text is to be cut outside of its range -/
def locate? (d : Document) (r : Request) (offset : Nat) : Option ErrorLocation :=
  let start := d.offsetOf (r.positionAt offset)
  if start ≤ d.length then
    let position := d.positionOf start
    some ⟨position, ⟨position, d.positionOf (start + width (d.chars.drop start))⟩⟩
  else none

theorem locate?_eq (d : Document) (r : Request) (offset : Nat) :
    locate? d r offset = some (locate d r offset) :=
  if_pos (d.offsetOf_le_length _)

/-- An error is located unless a sum on the way leaves the words. -/
theorem checkedLocate_eq_ok {d : Document} {r : Request} {offset : Nat} :
    checkedLocate d r offset = .ok (locate d r offset) ↔
      (r.positionAt offset).row < wordSize ∧ (r.positionAt offset).column < wordSize ∧
        d.Fits (r.positionAt offset) := by
  by_cases hwords : (r.positionAt offset).row < wordSize ∧ (r.positionAt offset).column < wordSize
  · have hposition : r.checkedPositionAt offset = .ok (r.positionAt offset) := if_pos hwords
    rw [checkedLocate, hposition]
    change d.checked [r.positionAt offset] (locate d r offset) = .ok _ ↔ _
    rw [Document.checked_eq_ok, List.forall_mem_singleton]
    simp [hwords]
  · have hposition : r.checkedPositionAt offset = .error ⟨⟩ := if_neg hwords
    rw [checkedLocate, hposition]
    constructor
    · nofun
    · rintro ⟨hrow, hcolumn, -⟩
      exact absurd ⟨hrow, hcolumn⟩ hwords

end ErrorLocation

open ErrorLocation

/-- An error is located in every text, for every statement and offset. The text is never cut outside
of its range, and no sum but those of the statement's place can leave the words; the place of the error
is the nearest to the one that the offset is mapped to, and the highlight reaches from there over just
the piece that stands there. -/
theorem located_piece (d : Document) (r : Request) (k : Nat) :
    let location := locate d r k
    let start := d.offsetOf location.position
    locate? d r k = some location ∧
      (checkedLocate d r k = .ok location ↔ (r.positionAt k).row < wordSize ∧
        (r.positionAt k).column < wordSize ∧ d.Fits (r.positionAt k)) ∧
      location.position = location.span.start ∧
      d.InText location.span.start ∧ d.InText location.span.stop ∧
      start = d.offsetOf (r.positionAt k) ∧ start ≤ d.offsetOf location.span.stop ∧
      ∀ n, Piece (d.chars.drop start) n ↔ n = d.offsetOf location.span.stop - start := by
  intro location start
  have hstart : start = d.offsetOf (r.positionAt k) := offsetOf_position d r k
  have hstop : d.offsetOf location.span.stop = start + width (d.chars.drop start) := by
    rw [hstart]
    exact offsetOf_stop d r k
  refine ⟨locate?_eq d r k, checkedLocate_eq_ok, rfl, d.inText_positionOf _, d.inText_positionOf _, hstart, by omega, ?_⟩
  intro n
  rw [piece_iff, hstop, Nat.add_sub_cancel_left]

end CaretSql
