import CaretSql.Proofs.Token.Places
import CaretSql.Proofs.Token.Reads

/-! The scan against the tokens. Inside of a literal, a quoted identifier or a comment the scan
goes through what the token still takes and finds nothing until it has left it, so from token to
token it finds exactly the delimiters and the comments among them. -/

namespace CaretSql

namespace Lexer

open Token

/-- what a token that a scan is inside of takes of the text ahead -/
def Mode.tail : Mode → List Char → List Char
  | .normal => fun _ => []
  | .literal true => escapeTail
  | .literal false => plainTail
  | .identifier => quotedTail
  | .dollar tag => dollarTail tag
  | .lineComment _ => List.takeWhile (· != '\n')
  | .blockComment _ depth => blockTail depth

variable {behind rest s : List Char} {offset : Nat} {c : Char} {mode : Mode}

/-- The step takes what it passes over of the token, and what it finds there are the lexemes that
an end of the token there gives. -/
structure Takes (mode : Mode) (offset : Nat) (c : Char) (rest : List Char) (step : Step) :
    Prop where
  skip : step.skip ≤ rest.length
  sound : step.mode ≠ .dollar []
  tail : mode.tail (c :: rest) = c :: (rest.take step.skip ++ step.mode.tail (rest.drop step.skip))
  found : step.found ++ finish (offset + (mode.tail (c :: rest)).length) step.mode =
    finish (offset + (mode.tail (c :: rest)).length) mode

/-- A step that passes over `skip` characters, finds nothing and stays inside of the token. -/
theorem Takes.stay {mode' : Mode} {skip : Nat} (hskip : skip ≤ rest.length)
    (hsound : mode' ≠ .dollar [])
    (htail : mode.tail (c :: rest) = c :: (rest.take skip ++ mode'.tail (rest.drop skip)))
    (hfinish : ∀ stop, finish stop mode' = finish stop mode) :
    Takes mode offset c rest { mode := mode', skip := skip } :=
  ⟨hskip, hsound, htail, hfinish _⟩

/-- A step that passes over the last `skip` characters of the token. -/
theorem Takes.leave {skip : Nat} {found : Lexemes} (hskip : skip ≤ rest.length)
    (htail : mode.tail (c :: rest) = c :: rest.take skip)
    (hfound : found = finish (offset + skip + 1) mode) :
    Takes mode offset c rest { mode := .normal, skip := skip, found := found } := by
  refine ⟨hskip, by simp, by simpa [Mode.tail] using htail, ?_⟩
  rw [htail, List.length_cons, List.length_take_of_le hskip, hfound, ← Nat.add_assoc]
  exact Lexemes.append_empty _

theorem takes_plain :
    Takes (.literal false) offset c rest (advance behind offset c rest (.literal false)) := by
  by_cases hc : c = '\''
  · subst hc
    by_cases hrest : rest.head? = some '\''
    · obtain ⟨more, rfl⟩ := List.head?_eq_some_iff.mp hrest
      exact .stay (by simp) (by simp) (by simp [Mode.tail, plainTail]) fun _ => rfl
    · rw [advance, if_neg (by simp), if_pos rfl, if_neg hrest]
      exact .leave (Nat.zero_le _) (by simp [Mode.tail, plainTail_close hrest]) rfl
  · rw [advance, if_neg (by simp), if_neg hc]
    exact .stay (Nat.zero_le _) (by simp) (by simp [Mode.tail, plainTail_cons hc]) fun _ => rfl

theorem takes_escape (h : c = '\\' → rest ≠ []) :
    Takes (.literal true) offset c rest (advance behind offset c rest (.literal true)) := by
  by_cases hslash : c = '\\'
  · obtain ⟨d, more, rfl⟩ := List.exists_cons_of_ne_nil (h hslash)
    subst hslash
    exact .stay (by simp) (by simp) (by simp [Mode.tail, escapeTail]) fun _ => rfl
  by_cases hc : c = '\''
  · subst hc
    by_cases hrest : rest.head? = some '\''
    · obtain ⟨more, rfl⟩ := List.head?_eq_some_iff.mp hrest
      exact .stay (by simp) (by simp) (by simp [Mode.tail, escapeTail]) fun _ => rfl
    · rw [advance, if_neg (by simp), if_pos rfl, if_neg hrest]
      exact .leave (Nat.zero_le _) (by simp [Mode.tail, escapeTail_close hrest]) rfl
  · rw [advance, if_neg (by simp [hslash]), if_neg hc]
    exact .stay (Nat.zero_le _) (by simp) (by simp [Mode.tail, escapeTail_cons hc hslash])
      fun _ => rfl

theorem takes_identifier :
    Takes .identifier offset c rest (advance behind offset c rest .identifier) := by
  by_cases hc : c = '"'
  · rw [advance, if_pos hc]
    exact .leave (Nat.zero_le _) (by simp [Mode.tail, quotedTail, hc]) rfl
  · rw [advance, if_neg hc]
    exact .stay (Nat.zero_le _) (by simp) (by simp [Mode.tail, quotedTail, hc]) fun _ => rfl

theorem takes_dollar {tag : List Char} (htag : tag ≠ []) :
    Takes (.dollar tag) offset c rest (advance behind offset c rest (.dollar tag)) := by
  by_cases hp : tag <+: c :: rest
  · obtain ⟨d, name, rfl⟩ := List.exists_cons_of_ne_nil htag
    obtain ⟨more, hmore⟩ := hp
    obtain ⟨rfl, rfl⟩ := List.cons.inj hmore
    rw [advance, if_pos (by simp)]
    exact .leave (by simp) (by simp [Mode.tail, dollarTail]) rfl
  · rw [advance, if_neg (by simpa using hp)]
    exact .stay (Nat.zero_le _) (by simpa using htag) (by simp [Mode.tail, dollarTail, hp])
      fun _ => rfl

theorem takes_line {start : Nat} (hc : c ≠ '\n') :
    Takes (.lineComment start) offset c rest
      (advance behind offset c rest (.lineComment start)) := by
  rw [advance, if_neg hc]
  exact .stay (Nat.zero_le _) (by simp) (by simp [Mode.tail, hc]) fun _ => rfl

theorem pair_prefix_iff {a b : Char} : [a, b] <+: c :: rest ↔ c = a ∧ rest.head? = some b := by
  cases rest with
  | nil => simp
  | cons d rest => simp [List.cons_prefix_cons, eq_comm]

theorem takes_block {start depth : Nat} :
    Takes (.blockComment start depth) offset c rest
      (advance behind offset c rest (.blockComment start depth)) := by
  by_cases hopen : ['/', '*'] <+: c :: rest
  · obtain ⟨more, hmore⟩ := hopen
    obtain ⟨rfl, rfl⟩ := List.cons.inj hmore
    exact .stay (by simp) (by simp) (by simp [Mode.tail, blockTail]) fun _ => rfl
  by_cases hclose : ['*', '/'] <+: c :: rest
  · obtain ⟨more, hmore⟩ := hclose
    obtain ⟨rfl, rfl⟩ := List.cons.inj hmore
    cases depth with
    | zero => exact .leave (by simp) (by simp [Mode.tail, blockTail]) rfl
    | succ depth => exact .stay (by simp) (by simp) (by simp [Mode.tail, blockTail]) fun _ => rfl
  have htail := blockTail_cons hopen hclose depth
  rw [pair_prefix_iff] at hopen hclose
  have hstep : advance behind offset c rest (.blockComment start depth) =
      { mode := .blockComment start depth } :=
    (if_neg hopen).trans (if_neg hclose)
  rw [hstep]
  exact .stay (Nat.zero_le _) (by simp) (by simp [Mode.tail, htail]) fun _ => rfl

/-- Inside of a token a scan takes of the text what the token does, but for the newline that ends a
line comment and a backslash at the end of the text. -/
theorem advance_inside (behind : List Char) (offset : Nat) (c : Char) (rest : List Char)
    (hnormal : mode ≠ .normal) (hsound : mode ≠ .dollar []) :
    Takes mode offset c rest (advance behind offset c rest mode) ∨
      (∃ start, mode = .lineComment start ∧ c = '\n') ∨
      mode = .literal true ∧ c = '\\' ∧ rest = [] := by
  cases mode with
  | normal => exact absurd rfl hnormal
  | literal escapes =>
    cases escapes with
    | false => exact Or.inl takes_plain
    | true =>
      by_cases h : c = '\\' ∧ rest = []
      · exact Or.inr (Or.inr ⟨rfl, h⟩)
      · exact Or.inl (takes_escape fun hc hrest => h ⟨hc, hrest⟩)
  | identifier => exact Or.inl takes_identifier
  | dollar tag => exact Or.inl (takes_dollar fun htag => hsound (by rw [htag]))
  | lineComment start =>
    by_cases hc : c = '\n'
    · exact Or.inr (Or.inl ⟨start, rfl, hc⟩)
    · exact Or.inl (takes_line hc)
  | blockComment start depth => exact Or.inl takes_block

theorem tail_nil (mode : Mode) : mode.tail [] = [] := by
  cases mode with
  | literal escapes => cases escapes <;> rfl
  | _ => rfl

theorem scan_nil (mode : Mode) (behind : List Char) (offset : Nat) :
    scan mode behind offset [] = finish offset mode := by
  rw [scan, run]

theorem scan_cons (mode : Mode) (behind : List Char) (offset : Nat) (c : Char) (rest : List Char) :
    scan mode behind offset (c :: rest) =
      (advance behind offset c rest mode).found ++
        scan (advance behind offset c rest mode).mode
          ((c :: rest.take (advance behind offset c rest mode).skip).reverse ++ behind)
          (offset + 1 + (advance behind offset c rest mode).skip)
          (rest.drop (advance behind offset c rest mode).skip) := by
  rw [scan, run]
  rfl

/-- Where a step and then the rest of a token lead, the token leads at once. -/
theorem along {text more : List Char} {k : Nat} (behind : List Char) (offset : Nat)
    (hk : k ≤ rest.length) (htext : text = c :: (rest.take k ++ more)) :
    offset + 1 + k + more.length = offset + text.length ∧
      more.reverse ++ ((c :: rest.take k).reverse ++ behind) = text.reverse ++ behind ∧
      (rest.drop k).drop more.length = (c :: rest).drop text.length := by
  subst htext
  refine ⟨?_, ?_, ?_⟩
  · rw [List.length_cons, List.length_append, List.length_take_of_le hk]
    omega
  · rw [← List.append_assoc, ← List.reverse_append, List.cons_append]
  · rw [List.length_cons, List.length_append, List.length_take_of_le hk, List.drop_succ_cons,
      List.drop_drop]

/-- A scan inside of a token finds the comment that the token may be, and goes on behind it. -/
theorem scan_inside (hsound : mode ≠ .dollar []) :
    scan mode behind offset s = finish (offset + (mode.tail s).length) mode ++
      scan .normal ((mode.tail s).reverse ++ behind) (offset + (mode.tail s).length)
        (s.drop (mode.tail s).length) := by
  fun_induction run mode behind offset s with
  | case1 mode behind offset => simp [tail_nil, scan_nil, finish]
  | case2 mode behind offset c rest step more ih =>
    by_cases hnormal : mode = .normal
    · subst hnormal
      simp only [Mode.tail, List.length_nil, List.drop_zero, finish, scan_cons .normal]
      rfl
    rcases advance_inside behind offset c rest hnormal hsound with
      h | ⟨start, hmode, hc⟩ | ⟨hmode, hc, hrest⟩
    · have htakes : Takes mode offset c rest step := h
      obtain ⟨hstop, hbehind, hdrop⟩ := along behind offset htakes.skip htakes.tail
      rw [scan_cons, ih htakes.sound, hstop, hbehind, hdrop, ← Lexemes.append_assoc, htakes.found]
    -- the comment ends before the newline, so the scan goes on from it and not behind it
    · subst hmode hc
      simp [scan_cons, advance, Mode.tail, finish]
    -- the step passes over a character that is not there, but no text is left to find anything in
    · subst hmode hc hrest
      simp [scan_cons, scan_nil, advance, Mode.tail, escapeTail, finish]

/-- The step takes what it passes over of the token that begins at it, and what it finds there are
the lexemes that an end of the token there gives. -/
structure Opens (t : Token) (offset : Nat) (c : Char) (rest : List Char) (step : Step) : Prop where
  skip : step.skip ≤ rest.length
  sound : step.mode ≠ .dollar []
  text : t.text = c :: (rest.take step.skip ++ step.mode.tail (rest.drop step.skip))
  found : step.found ++ finish (offset + t.text.length) step.mode = Lexemes.ofTokens offset [t]

theorem opens_quote (behind : List Char) (offset : Nat) (rest : List Char) :
    Opens (next behind '\'' rest) offset '\'' rest (advance behind offset '\'' rest .normal) := by
  by_cases hmark : endsInEscapeMark behind = true
  · rw [next_escape (endsInEscapeMark_iff.mp hmark)]
    have hstep : advance behind offset '\'' rest .normal = { mode := .literal true } := by
      simp [advance, hmark]
    rw [hstep]
    exact ⟨Nat.zero_le _, by simp, by simp [Mode.tail],
      (Lexemes.ofTokens_other (by simp [Token.delimiter]) rfl offset).symm⟩
  · rw [next_plain fun h => hmark (endsInEscapeMark_iff.mpr h)]
    have hstep : advance behind offset '\'' rest .normal = { mode := .literal false } := by
      simp [advance, hmark]
    rw [hstep]
    exact ⟨Nat.zero_le _, by simp, by simp [Mode.tail],
      (Lexemes.ofTokens_other (by simp [Token.delimiter]) rfl offset).symm⟩

theorem opens_dollar {tag : List Char} (h : dollarTag? behind rest = some tag) (offset : Nat) :
    Opens (next behind '$' rest) offset '$' rest (advance behind offset '$' rest .normal) := by
  obtain ⟨hopens, body, hs⟩ := dollarTag?_eq_some_iff.mp h
  have hstep : advance behind offset '$' rest .normal =
      { mode := .dollar tag, skip := tag.length - 1 } := by
    simp [advance, h]
  rw [hstep, next_dollar hopens hs]
  obtain ⟨d, name, rfl⟩ := List.exists_cons_of_ne_nil hopens.ne_nil
  obtain ⟨rfl, rfl⟩ := cons_of_append hs
  exact ⟨by simp, by simp, by simp [Mode.tail],
    (Lexemes.ofTokens_other (by simp [Token.delimiter]) rfl offset).symm⟩

theorem opens_line (behind : List Char) (offset : Nat) (rest : List Char) :
    Opens (next behind '-' ('-' :: rest)) offset '-' ('-' :: rest)
      (advance behind offset '-' ('-' :: rest) .normal) := by
  rw [next_line]
  exact ⟨by simp [advance], by simp [advance], by simp [advance, Mode.tail],
    (Lexemes.ofTokens_comment rfl offset).symm⟩

theorem opens_block (behind : List Char) (offset : Nat) (rest : List Char) :
    Opens (next behind '/' ('*' :: rest)) offset '/' ('*' :: rest)
      (advance behind offset '/' ('*' :: rest) .normal) := by
  rw [next_block]
  exact ⟨by simp [advance], by simp [advance], by simp [advance, Mode.tail],
    (Lexemes.ofTokens_comment rfl offset).symm⟩

theorem opens_character
    (hstep : advance behind offset c rest .normal =
      { mode := .normal, found := if c = ';' then { delimiters := [offset] } else {} })
    (hnext : next behind c rest = ⟨.character, [c]⟩) :
    Opens (next behind c rest) offset c rest (advance behind offset c rest .normal) := by
  rw [hstep, hnext]
  refine ⟨Nat.zero_le _, by simp, by simp [Mode.tail], ?_⟩
  split
  · next hc => rw [hc]; rfl
  · next hc => exact (Lexemes.ofTokens_other (by simp [Token.delimiter, hc]) rfl offset).symm

/-- Outside of longer tokens a step of the scan opens the token that the reader reads. -/
theorem advance_normal (behind : List Char) (offset : Nat) (c : Char) (rest : List Char) :
    Opens (next behind c rest) offset c rest (advance behind offset c rest .normal) := by
  by_cases hquote : c = '\''
  · exact hquote ▸ opens_quote behind offset rest
  by_cases hdouble : c = '"'
  · subst hdouble
    exact ⟨by simp [advance], by simp [advance], by simp [advance, next_quoted, Mode.tail],
      (Lexemes.ofTokens_other (by simp [next_quoted, Token.delimiter]) rfl offset).symm⟩
  by_cases hdollar : c = '$'
  · subst hdollar
    cases htag : dollarTag? behind rest with
    | none => exact opens_character (by simp [advance, htag]) (by simp [next, htag])
    | some tag => exact opens_dollar htag offset
  by_cases hline : c = '-'
  · subst hline
    by_cases hrest : rest.head? = some '-'
    · obtain ⟨more, rfl⟩ := List.head?_eq_some_iff.mp hrest
      exact opens_line behind offset more
    · exact opens_character (by simp [advance, hrest]) (by simp [next, hrest])
  by_cases hblock : c = '/'
  · subst hblock
    by_cases hrest : rest.head? = some '*'
    · obtain ⟨more, rfl⟩ := List.head?_eq_some_iff.mp hrest
      exact opens_block behind offset more
    · exact opens_character (by simp [advance, hrest]) (by simp [next, hrest])
  by_cases hc : c = ';'
  · subst hc
    exact opens_character rfl rfl
  · exact opens_character (by simp [advance, hc]) (by simp [next])

/-- A scan that is outside of longer tokens finds what the tokens ahead show. -/
theorem scan_normal (behind : List Char) (offset : Nat) (s : List Char) :
    scan .normal behind offset s = Lexemes.ofTokens offset (tokensFrom behind s) := by
  fun_induction tokensFrom behind s generalizing offset with
  | case1 => rw [scan_nil]; rfl
  | case2 behind c rest token ih =>
    have h : Opens token offset c rest (advance behind offset c rest .normal) :=
      advance_normal behind offset c rest
    obtain ⟨hstop, hbehind, hdrop⟩ := along behind offset h.skip h.text
    have hpos : (c :: rest).drop token.text.length = rest.drop (token.text.length - 1) := by
      rw [h.text]
      simp
    rw [scan_cons, scan_inside h.sound, hstop, hbehind, hdrop, hpos, ih, ← Lexemes.append_assoc,
      h.found, ← Lexemes.ofTokens_cons]

theorem ofText_eq_ofTokens (s : List Char) : Lexemes.ofText s = Lexemes.ofTokens 0 (tokens s) :=
  scan_normal [] 0 s

end Lexer

end CaretSql
