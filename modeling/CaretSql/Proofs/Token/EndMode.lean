import CaretSql.Proofs.Token.Restart

/-! How a scan of a text ends. If it ends outside of all tokens and not within an identifier, a dollar
sign behind the text changes nothing that the scan finds in it, and the scan goes on from there. -/

namespace CaretSql

namespace Token

open Lexer

variable {behind rest s tag w : List Char} {c : Char}

theorem not_fresh_cons (hc : isIdentifierChar c = true) (s : List Char) : ¬ Fresh (c :: s) := by
  intro h
  rw [h c rfl] at hc
  cases hc

/-- A tag could stand within an identifier. -/
theorem OpensTag.isIdentifierChar (h : OpensTag behind tag) :
    ∀ c ∈ tag, isIdentifierChar c = true := by
  obtain ⟨name, rfl, hname, -⟩ := h.name
  intro c hc
  rw [List.mem_cons, List.mem_append, List.mem_singleton] at hc
  rcases hc with rfl | hmem | rfl
  · decide
  · have htagged := hname c hmem
    simp only [isTagChar, isIdentifierChar, Bool.or_eq_true] at htagged ⊢
    exact Or.inl htagged
  · decide

theorem Fresh.of_isPrefix (h : Fresh s) (hp : w <+: s) : Fresh w := by
  cases w with
  | nil => exact fresh_nil
  | cons c w =>
    obtain ⟨more, rfl⟩ := hp
    exact h

theorem Fresh.reverse_drop (h : Fresh (c :: rest).reverse) (n : Nat) :
    Fresh (rest.drop n).reverse := by
  apply h.of_isPrefix
  rw [List.reverse_prefix]
  exact (List.drop_suffix n rest).trans (List.suffix_cons c rest)

end Token

open Token

namespace Lexer

variable {behind rest s w tag : List Char} {offset : Nat} {c : Char} {mode : Mode}

/-- what a scan is inside of when it has come to the end of a text -/
def endMode (mode : Mode) (behind : List Char) (offset : Nat) (s : List Char) : Mode :=
  (run mode behind offset s).2

theorem endMode_nil (mode : Mode) (behind : List Char) (offset : Nat) :
    endMode mode behind offset [] = mode := by
  rw [endMode, run]

theorem endMode_cons (mode : Mode) (behind : List Char) (offset : Nat) (c : Char)
    (rest : List Char) :
    endMode mode behind offset (c :: rest) =
      endMode (advance behind offset c rest mode).mode
        ((c :: rest.take (advance behind offset c rest mode).skip).reverse ++ behind)
        (offset + 1 + (advance behind offset c rest mode).skip)
        (rest.drop (advance behind offset c rest mode).skip) := by
  rw [endMode, run]
  rfl

/-- Text that is shorter than its tag does not close a dollar literal. -/
theorem endMode_of_short (h : s.length < tag.length) (behind : List Char) (offset : Nat) :
    endMode (.dollar tag) behind offset s = .dollar tag := by
  induction s generalizing behind offset with
  | nil => exact endMode_nil ..
  | cons c s ih =>
    have hnot : ¬ tag <+: c :: s := fun hp => absurd hp.length_le (Nat.not_le_of_lt h)
    have hstep : advance behind offset c s (.dollar tag) = { mode := .dollar tag } := by
      rw [advance, if_neg (by simpa using hnot)]
    rw [endMode_cons, hstep]
    exact ih (Nat.lt_of_succ_lt h) _ _

/-- A backslash at the end of the text leaves its escape literal open. -/
theorem endMode_backslash (behind : List Char) (offset : Nat) :
    endMode (.literal true) behind offset ['\\'] = .literal true := by
  rw [endMode_cons, List.drop_nil, endMode_nil]
  rfl

theorem head?_append_dollar {d : Char} (hd : d ≠ '$') :
    (rest ++ '$' :: w).head? = some d ↔ rest.head? = some d := by
  cases rest with
  | nil => simpa using hd.symm
  | cons => rfl

/-- A tag that needs the dollar sign behind the text takes an identifier at the end of the text along. -/
theorem isPrefix_of_fresh (htag : OpensTag behind tag) (hfresh : Fresh ('$' :: rest).reverse)
    (hp : tag <+: '$' :: (rest ++ '$' :: w)) : tag <+: '$' :: rest := by
  have hwhole : '$' :: rest <+: '$' :: (rest ++ '$' :: w) := List.prefix_append ('$' :: rest) _
  rcases List.prefix_or_prefix_of_prefix hp hwhole with h | h
  · exact h
  -- the tag would go on behind the last character, which is none of an identifier
  · exfalso
    obtain ⟨d, more, hlast⟩ := List.exists_cons_of_ne_nil (l := ('$' :: rest).reverse) (by simp)
    have hd : d ∈ '$' :: rest := List.mem_reverse.mp (hlast ▸ List.mem_cons_self)
    rw [hlast] at hfresh
    exact not_fresh_cons (htag.isIdentifierChar d (h.subset hd)) more hfresh

theorem dollarTag?_append (hfresh : Fresh ('$' :: rest).reverse) :
    dollarTag? behind (rest ++ '$' :: w) = dollarTag? behind rest := by
  apply Option.ext
  intro tag
  rw [dollarTag?_eq_some_iff, dollarTag?_eq_some_iff]
  constructor
  · rintro ⟨htag, hp⟩
    exact ⟨htag, isPrefix_of_fresh htag hfresh hp⟩
  · rintro ⟨htag, hp⟩
    exact ⟨htag, hp.trans (List.prefix_append ('$' :: rest) _)⟩

/-- A step does not see the dollar sign behind the text, unless it needs it to close a literal. -/
theorem advance_append (hfresh : Fresh (c :: rest).reverse)
    (hclose : ∀ tag, mode = .dollar tag → tag.length ≤ (c :: rest).length) :
    advance behind offset c (rest ++ '$' :: w) mode = advance behind offset c rest mode := by
  have hhead {d : Char} (hd : d ≠ '$') :
      (rest ++ '$' :: w).head? = some d ↔ rest.head? = some d := head?_append_dollar hd
  cases mode with
  | normal =>
    simp only [advance, hhead (d := '-') (by decide), hhead (d := '*') (by decide)]
    split
    · rfl
    · rfl
    · rw [dollarTag?_append hfresh]
    · rfl
    · rfl
    · rfl
    · rfl
  | literal escapes => simp only [advance, hhead (d := '\'') (by decide)]
  | identifier => rfl
  | dollar tag =>
    have hp : tag <+: c :: (rest ++ '$' :: w) ↔ tag <+: c :: rest := by
      constructor
      · intro h
        exact List.prefix_of_prefix_length_le h (List.prefix_append (c :: rest) _) (hclose tag rfl)
      · intro h
        exact h.trans (List.prefix_append (c :: rest) _)
    simp only [advance, List.isPrefixOf_iff_prefix, hp]
  | lineComment start => rfl
  | blockComment start depth =>
    simp only [advance, hhead (d := '*') (by decide), hhead (d := '/') (by decide)]

/-- A step passes over text that is there, unless it is a backslash at the end of an escape literal. -/
theorem advance_bounded (behind : List Char) (offset : Nat) (c : Char) (rest : List Char)
    (hsound : mode ≠ .dollar []) (hcut : ¬ (mode = .literal true ∧ c = '\\' ∧ rest = [])) :
    (advance behind offset c rest mode).skip ≤ rest.length ∧
      (advance behind offset c rest mode).mode ≠ .dollar [] := by
  by_cases hnormal : mode = .normal
  · subst hnormal
    have h := advance_normal behind offset c rest
    exact ⟨h.skip, h.sound⟩
  · rcases advance_inside behind offset c rest hnormal hsound with h | ⟨start, rfl, rfl⟩ | h
    · exact ⟨h.skip, h.sound⟩
    · simp [advance]
    · exact absurd h hcut

/-- Where a scan ends outside of all tokens, it finds the same with a dollar sign behind the text, and
goes on from there. -/
theorem scan_append (hend : endMode mode behind offset s = .normal) (hsound : mode ≠ .dollar [])
    (hfresh : Fresh s.reverse) (w : List Char) :
    scan mode behind offset (s ++ '$' :: w) = scan mode behind offset s ++
      scan .normal (s.reverse ++ behind) (offset + s.length) ('$' :: w) := by
  fun_induction run mode behind offset s with
  | case1 mode behind offset =>
    rw [endMode_nil] at hend
    rw [hend, scan_nil]
    rfl
  | case2 mode behind offset c rest step more ih =>
    rw [endMode_cons] at hend
    have hclose : ∀ tag, mode = .dollar tag → tag.length ≤ (c :: rest).length := by
      rintro tag rfl
      by_contra hshort
      have hopen := endMode_of_short (Nat.lt_of_not_le hshort) behind offset
      rw [endMode_cons] at hopen
      cases hopen.symm.trans hend
    have hcut : ¬ (mode = .literal true ∧ c = '\\' ∧ rest = []) := by
      rintro ⟨rfl, rfl, rfl⟩
      have hopen := endMode_backslash behind offset
      rw [endMode_cons] at hopen
      cases hopen.symm.trans hend
    obtain ⟨hskip, hnext⟩ := advance_bounded behind offset c rest hsound hcut
    have htext : c :: rest = c :: (rest.take step.skip ++ rest.drop step.skip) := by
      rw [List.take_append_drop]
    obtain ⟨hstop, hbehind, -⟩ := along behind offset hskip htext
    rw [List.cons_append, scan_cons, scan_cons, advance_append hfresh hclose,
      List.take_append_of_le_length hskip, List.drop_append_of_le_length hskip,
      ih hend hnext (hfresh.reverse_drop _), ← Lexemes.append_assoc, hbehind, hstop]

end Lexer

end CaretSql
