import CaretSql.Proofs.Token.Tail
import Mathlib.Data.List.TakeWhile

/-! The reader of tokens against the grammar. Every text begins with a token, and where the
grammar lets a token stand the reader reads it, so the tokens of a text are the only ones that it
falls into. -/

namespace CaretSql.Token

open Lexer

variable {behind rest after s tag : List Char} {c : Char} {t : Token} {ts : List Token}

theorem fresh_iff : Fresh behind ↔ behind.head?.any isIdentifierChar = false := by
  cases behind <;> simp [Fresh]

theorem endsInEscapeMark_iff : endsInEscapeMark behind = true ↔ EscapeMark behind := by
  cases behind with
  | nil => simp [endsInEscapeMark, EscapeMark]
  | cons e more =>
    simp only [endsInEscapeMark, EscapeMark, Bool.and_eq_true, Bool.or_eq_true, beq_iff_eq,
      Bool.not_eq_true', ← fresh_iff]
    constructor
    · rintro ⟨he, hfresh⟩
      exact ⟨e, more, rfl, he, hfresh⟩
    · rintro ⟨_, _, ⟨⟩, he, hfresh⟩
      exact ⟨he, hfresh⟩

theorem not_endsInEscapeMark (h : ¬ EscapeMark behind) : ¬ endsInEscapeMark behind = true :=
  fun hmark => h (endsInEscapeMark_iff.mp hmark)

theorem takeWhile_isTagChar {name : List Char} (h : ∀ c ∈ name, isTagChar c = true) :
    (name ++ '$' :: rest).takeWhile isTagChar = name := by
  rw [List.takeWhile_append_of_pos h, List.takeWhile_cons_of_neg (by decide), List.append_nil]

theorem OpensTag.ne_nil (h : OpensTag behind tag) : tag ≠ [] := by
  obtain ⟨name, rfl, -⟩ := h.name
  exact List.cons_ne_nil _ _

/-- The reader finds a dollar sign to open the tags that the grammar lets it open. -/
theorem dollarTag?_eq_some_iff :
    dollarTag? behind rest = some tag ↔ OpensTag behind tag ∧ tag <+: '$' :: rest := by
  constructor
  · intro h
    unfold dollarTag? at h
    dsimp only at h
    split at h
    · cases h
    next hnot =>
    split at h
    · next hend =>
      obtain rfl : _ = tag := Option.some.inj h
      simp only [Bool.or_eq_true, not_or, Bool.not_eq_true] at hnot
      obtain ⟨more, hmore⟩ := List.head?_eq_some_iff.mp hend
      have hrest : rest.takeWhile isTagChar ++ '$' :: more = rest := by
        rw [← hmore]
        exact List.prefix_iff_eq_append.mp (List.takeWhile_prefix isTagChar)
      refine ⟨⟨⟨_, rfl, fun c hc => List.mem_takeWhile_imp hc, ?_⟩, fresh_iff.mpr hnot.1⟩,
        more, by simpa using hrest⟩
      intro c hc
      have hhead : rest.head? = some c := by
        rw [← hrest, List.head?_append, Option.mem_def.mp hc]
        rfl
      simpa [hhead] using hnot.2
    · cases h
  · rintro ⟨⟨⟨name, rfl, hname, hdigit⟩, hfresh⟩, more, hs⟩
    obtain rfl : name ++ '$' :: more = rest := by simpa using hs
    have hhead : (name ++ '$' :: more).head?.any Char.isDigit = false := by
      cases name with
      | nil => rfl
      | cons d name => simpa using hdigit
    unfold dollarTag?
    rw [fresh_iff.mp hfresh, hhead, takeWhile_isTagChar hname]
    simp

theorem takeWhile_line {body : List Char} (hbody : '\n' ∉ body)
    (hrest : rest = [] ∨ rest.head? = some '\n') :
    (body ++ rest).takeWhile (· != '\n') = body := by
  rw [List.takeWhile_append_of_pos (fun c hc => bne_iff_ne.mpr (ne_of_mem_of_not_mem hc hbody))]
  rcases hrest with rfl | hrest
  · rw [List.takeWhile_nil, List.append_nil]
  · obtain ⟨more, rfl⟩ := List.head?_eq_some_iff.mp hrest
    rw [List.takeWhile_cons_of_neg (by decide), List.append_nil]

theorem exists_line (s : List Char) :
    ∃ body rest, s = body ++ rest ∧ '\n' ∉ body ∧ (rest = [] ∨ rest.head? = some '\n') := by
  by_cases h : '\n' ∈ s
  · obtain ⟨body, rest, rfl, hbody⟩ := List.eq_append_cons_of_mem h
    exact ⟨body, '\n' :: rest, rfl, hbody, Or.inr rfl⟩
  · exact ⟨s, [], (List.append_nil s).symm, h, Or.inl rfl⟩

theorem next_plain (hmark : ¬ EscapeMark behind) (rest : List Char) :
    next behind '\'' rest = ⟨.plainLiteral, '\'' :: plainTail rest⟩ :=
  if_neg (not_endsInEscapeMark hmark)

theorem next_escape (hmark : EscapeMark behind) (rest : List Char) :
    next behind '\'' rest = ⟨.escapeLiteral, '\'' :: escapeTail rest⟩ :=
  if_pos (endsInEscapeMark_iff.mpr hmark)

theorem next_dollar {body : List Char} (htag : OpensTag behind tag) (hs : tag ++ body = c :: rest) :
    next behind c rest = ⟨.dollarLiteral, tag ++ dollarTail tag body⟩ := by
  have hpre : tag <+: c :: rest := ⟨body, hs⟩
  obtain ⟨name, hname, -⟩ := htag.name
  subst hname
  obtain ⟨rfl, rfl⟩ := List.cons.inj hs
  simp only [next, dollarTag?_eq_some_iff.mpr ⟨htag, hpre⟩]
  simp

theorem next_quoted (rest : List Char) :
    next behind '"' rest = ⟨.quotedIdentifier, '"' :: quotedTail rest⟩ :=
  rfl

theorem next_line (rest : List Char) :
    next behind '-' ('-' :: rest) = ⟨.lineComment, '-' :: '-' :: rest.takeWhile (· != '\n')⟩ :=
  rfl

theorem next_block (rest : List Char) :
    next behind '/' ('*' :: rest) = ⟨.blockComment, '/' :: '*' :: blockTail 0 rest⟩ :=
  rfl

theorem next_character (h : Single behind c rest) : next behind c rest = ⟨.character, [c]⟩ := by
  unfold next
  split
  · exact absurd rfl h.quote
  · exact absurd rfl h.doubleQuote
  · split
    · next tag htag =>
      obtain ⟨hopens, hpre⟩ := dollarTag?_eq_some_iff.mp htag
      exact absurd hpre (h.dollar rfl tag hopens)
    · rfl
  · rw [if_neg (h.line rfl)]
  · rw [if_neg (h.block rfl)]
  · rfl

theorem cons_of_append {d : Char} {text : List Char} (hs : d :: text ++ after = c :: rest) :
    d = c ∧ text ++ after = rest :=
  List.cons.inj hs

theorem Reads.eq_next (h : Reads behind t after) (hs : t.text ++ after = c :: rest) :
    t = next behind c rest := by
  cases h with
  | plain hmark hbody hrest =>
    obtain ⟨rfl, rfl⟩ := cons_of_append hs
    rw [next_plain hmark, List.append_assoc, List.singleton_append, plainTail_closed hbody hrest]
  | plainOpen hmark hbody =>
    obtain ⟨rfl, rfl⟩ := cons_of_append hs
    rw [next_plain hmark, List.append_nil, plainTail_open hbody]
  | escape hmark hbody hrest =>
    obtain ⟨rfl, rfl⟩ := cons_of_append hs
    rw [next_escape hmark, List.append_assoc, List.singleton_append, escapeTail_closed hbody hrest]
  | escapeOpen hmark hbody =>
    obtain ⟨rfl, rfl⟩ := cons_of_append hs
    rw [next_escape hmark, List.append_nil, escapeTail_open hbody]
  | escapeCut hmark hbody =>
    obtain ⟨rfl, rfl⟩ := cons_of_append hs
    rw [next_escape hmark, List.append_nil, escapeTail_cut hbody]
  | quoted hbody =>
    obtain ⟨rfl, rfl⟩ := cons_of_append hs
    rw [next_quoted, List.append_assoc, List.singleton_append, quotedTail_closed hbody]
  | quotedOpen hbody =>
    obtain ⟨rfl, rfl⟩ := cons_of_append hs
    rw [next_quoted, List.append_nil, quotedTail_open hbody]
  | dollar htag hfirst =>
    rw [next_dollar htag (by simpa using hs), dollarTail_closed htag.ne_nil hfirst]
  | dollarOpen htag hnone =>
    rw [next_dollar htag (by simpa using hs), dollarTail_open hnone]
  | line hbody hrest =>
    obtain ⟨rfl, rfl⟩ := cons_of_append hs
    rw [List.cons_append, next_line, takeWhile_line hbody hrest]
  | block hbody =>
    obtain ⟨rfl, rfl⟩ := cons_of_append hs
    rw [List.cons_append, next_block, (blockTail_append hbody after).1]
  | blockOpen hnone =>
    obtain ⟨rfl, rfl⟩ := cons_of_append hs
    rw [List.append_nil, next_block,
      (blockTail_cases 0 _).resolve_left (hnone _ (blockTail_isPrefix 0 _))]
  | character hsingle =>
    obtain ⟨rfl, rfl⟩ := cons_of_append hs
    exact (next_character hsingle).symm

theorem exists_reads (behind : List Char) (c : Char) (rest : List Char) :
    ∃ t after, t.text ++ after = c :: rest ∧ Reads behind t after := by
  by_cases hquote : c = '\''
  · subst hquote
    by_cases hmark : EscapeMark behind
    · rcases escapeBody_cases rest with
        hbody | ⟨body, rfl, hbody⟩ | ⟨body, after, rfl, hbody, hrest⟩
      · exact ⟨_, _, by simp, .escapeOpen hmark hbody⟩
      · exact ⟨_, _, by simp, .escapeCut hmark hbody⟩
      · exact ⟨_, _, by simp, .escape hmark hbody hrest⟩
    · rcases plainBody_cases rest with hbody | ⟨body, after, rfl, hbody, hrest⟩
      · exact ⟨_, _, by simp, .plainOpen hmark hbody⟩
      · exact ⟨_, _, by simp, .plain hmark hbody hrest⟩
  by_cases hdouble : c = '"'
  · subst hdouble
    by_cases hmem : '"' ∈ rest
    · obtain ⟨body, after, rfl, hbody⟩ := List.eq_append_cons_of_mem hmem
      exact ⟨_, after, by simp, .quoted hbody⟩
    · exact ⟨_, _, by simp, .quotedOpen hmem⟩
  by_cases hdollar : ∃ tag, OpensTag behind tag ∧ tag <+: c :: rest
  · obtain ⟨tag, htag, body, hbody⟩ := hdollar
    by_cases hclosed : tag <:+: body
    · obtain ⟨inside, after, rfl, hfirst⟩ := exists_first hclosed
      exact ⟨_, _, by simpa using hbody, .dollar htag hfirst⟩
    · exact ⟨_, _, by simpa using hbody, .dollarOpen htag hclosed⟩
  by_cases hline : c = '-' ∧ rest.head? = some '-'
  · obtain ⟨rfl, hrest⟩ := hline
    obtain ⟨more, rfl⟩ := List.head?_eq_some_iff.mp hrest
    obtain ⟨body, after, rfl, hbody, hafter⟩ := exists_line more
    exact ⟨_, after, by simp, .line hbody hafter⟩
  by_cases hblock : c = '/' ∧ rest.head? = some '*'
  · obtain ⟨rfl, hrest⟩ := hblock
    obtain ⟨more, rfl⟩ := List.head?_eq_some_iff.mp hrest
    by_cases hclosed : ∃ body, body <+: more ∧ BlockBody body
    · obtain ⟨body, ⟨after, rfl⟩, hbody⟩ := hclosed
      exact ⟨_, after, by simp, .block hbody⟩
    · exact ⟨_, [], by simp, .blockOpen fun s hs hbody => hclosed ⟨s, hs, hbody⟩⟩
  refine ⟨⟨.character, [c]⟩, rest, rfl, .character ⟨hquote, hdouble, ?_, ?_, ?_⟩⟩
  · exact fun _ tag htag hp => hdollar ⟨tag, htag, hp⟩
  · exact fun hc hrest => hline ⟨hc, hrest⟩
  · exact fun hc hrest => hblock ⟨hc, hrest⟩

theorem Reads.ne_nil (h : Reads behind t after) : t.text ≠ [] := by
  cases h with
  | dollar htag | dollarOpen htag => simp [htag.ne_nil]
  | _ => exact List.cons_ne_nil _ _

theorem Reads.unique {t' : Token} {after' : List Char} (h : Reads behind t after)
    (h' : Reads behind t' after') (hs : t.text ++ after = t'.text ++ after') : t = t' := by
  have hne := List.append_ne_nil_of_left_ne_nil h.ne_nil after
  obtain ⟨c, rest, heq⟩ := List.exists_cons_of_ne_nil hne
  rw [h.eq_next heq, h'.eq_next (hs.symm.trans heq)]

theorem drop_of_append {text : List Char} (hs : text ++ after = c :: rest) (hne : text ≠ []) :
    rest.drop (text.length - 1) = after := by
  obtain ⟨d, text, rfl⟩ := List.exists_cons_of_ne_nil hne
  obtain ⟨rfl, rfl⟩ := cons_of_append hs
  simp

theorem Splits.eq_tokensFrom (h : Splits behind s ts) : ts = tokensFrom behind s := by
  induction h with
  | nil => rw [tokensFrom]
  | @cons behind after t more ht _ ih =>
    have hne := List.append_ne_nil_of_left_ne_nil ht.ne_nil after
    obtain ⟨c, rest, hs⟩ := List.exists_cons_of_ne_nil hne
    rw [hs, tokensFrom, ← ht.eq_next hs, drop_of_append hs ht.ne_nil, ih]

theorem splits_tokensFrom (behind s : List Char) : Splits behind s (tokensFrom behind s) := by
  fun_induction tokensFrom behind s with
  | case1 => exact .nil
  | case2 behind c rest token ih =>
    obtain ⟨t, after, hs, ht⟩ := exists_reads behind c rest
    obtain rfl : t = token := ht.eq_next hs
    rw [drop_of_append hs ht.ne_nil] at ih ⊢
    rw [← hs]
    exact .cons ht ih

theorem splits_iff : Splits behind s ts ↔ ts = tokensFrom behind s :=
  ⟨Splits.eq_tokensFrom, fun h => h ▸ splits_tokensFrom behind s⟩

end CaretSql.Token
