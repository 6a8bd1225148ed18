import CaretSql.Proofs.Token.EndMode

/-! What a closed dollar literal leaves behind. It is one token, but what follows it is read as if an
identifier stood before it, so a dollar literal or an escape literal right behind it is not read as
one. -/

namespace CaretSql

open Token

namespace Token

open Lexer

variable {behind behind' rest s tag body v : List Char} {c : Char}

theorem tokensFrom_of_alike (h : Alike behind behind') (s : List Char) :
    tokensFrom behind s = tokensFrom behind' s :=
  ((splits_tokensFrom behind s).of_alike h).eq_tokensFrom

/-- Only a quote and a dollar sign look at what stands before them. -/
theorem next_congr (hquote : c = '\'' → (EscapeMark behind ↔ EscapeMark behind'))
    (hdollar : c = '$' → dollarTag? behind rest = dollarTag? behind' rest) :
    next behind c rest = next behind' c rest := by
  unfold next
  split
  · have hmark : endsInEscapeMark behind = endsInEscapeMark behind' := by
      rw [Bool.eq_iff_iff, endsInEscapeMark_iff, endsInEscapeMark_iff]
      exact hquote rfl
    rw [hmark]
  · rfl
  · rw [hdollar rfl]
  · rfl
  · rfl
  · rfl

theorem tokensFrom_congr (hnext : next behind c rest = next behind' c rest)
    (halike : Alike ((next behind c rest).text.reverse ++ behind)
      ((next behind c rest).text.reverse ++ behind')) :
    tokensFrom behind (c :: rest) = tokensFrom behind' (c :: rest) := by
  rw [tokensFrom, tokensFrom, ← hnext, tokensFrom_of_alike halike]

/-- Behind two characters it does not matter what stands before them. -/
theorem alike_of_two (hs : 2 ≤ s.length) : Alike (s ++ behind) (s ++ behind') := by
  match s, hs with
  | c :: d :: s, _ =>
    refine ⟨Iff.rfl, ?_⟩
    simp only [List.cons_append, escapeMark_cons]
    exact Iff.rfl

/-- A token that does not begin with an E hides what stands before it. -/
theorem alike_of_token (hmark : ¬ (c = 'E' ∨ c = 'e')) (text : List Char) :
    Alike ((c :: text).reverse ++ behind) ((c :: text).reverse ++ behind') := by
  cases text with
  | nil => exact ⟨Iff.rfl, by simp [escapeMark_cons, hmark]⟩
  | cons d text => exact alike_of_two (by simp)

theorem next_mark (hmark : c = 'E' ∨ c = 'e') (behind rest : List Char) :
    next behind c rest = ⟨.character, [c]⟩ := by
  rcases hmark with rfl | rfl <;> rfl

theorem exists_next_text (behind : List Char) (c : Char) (rest : List Char) :
    ∃ more, (next behind c rest).text = c :: more := by
  obtain ⟨t, after, hs, ht⟩ := exists_reads behind c rest
  obtain ⟨d, more, htext⟩ := List.exists_cons_of_ne_nil ht.ne_nil
  rw [← ht.eq_next hs, htext]
  rw [htext] at hs
  exact ⟨more, by rw [(cons_of_append hs).1]⟩

/-- The text ends within an identifier, and one that is not a lone E. -/
structure InIdentifier (behind : List Char) : Prop where
  fresh : ¬ Fresh behind
  mark : ¬ EscapeMark behind

theorem inIdentifier_cons (hc : isIdentifierChar c = true) (he : c ≠ 'E' ∧ c ≠ 'e')
    (behind : List Char) : InIdentifier (c :: behind) := by
  refine ⟨not_fresh_cons hc behind, ?_⟩
  rw [escapeMark_cons]
  rintro ⟨hmark | hmark, -⟩
  · exact he.1 hmark
  · exact he.2 hmark

theorem InIdentifier.alike (h : InIdentifier behind) (h' : InIdentifier behind') :
    Alike behind behind' :=
  ⟨iff_of_false h.fresh h'.fresh, iff_of_false h.mark h'.mark⟩

theorem dollarTag?_of_not_fresh (h : ¬ Fresh behind) (rest : List Char) :
    dollarTag? behind rest = none := by
  rw [Option.eq_none_iff_forall_ne_some]
  intro tag htag
  exact h (dollarTag?_eq_some_iff.mp htag).1.fresh

/-- Behind a character of an identifier only a quote looks further. -/
theorem tokensFrom_cons_congr (hc : isIdentifierChar c = true) (hrest : rest.head? ≠ some '\'') :
    tokensFrom (c :: behind) rest = tokensFrom (c :: behind') rest := by
  cases rest with
  | nil => rw [tokensFrom, tokensFrom]
  | cons d more =>
    obtain ⟨text, htext⟩ := exists_next_text (c :: behind) d more
    apply tokensFrom_congr
    · apply next_congr
      · rintro rfl
        exact absurd rfl hrest
      · intro _
        rw [dollarTag?_of_not_fresh (not_fresh_cons hc _),
          dollarTag?_of_not_fresh (not_fresh_cons hc _)]
    · rw [htext, List.append_cons, List.append_cons _ c behind']
      exact alike_of_two (by simp)

/-- The text begins with one of the two literals that look at what stands before them to be what they
are: a dollar literal, or an escape literal with its E. -/
def LooksBehind (v : List Char) : Prop :=
  (∃ tag, OpensTag [] tag ∧ tag <+: v) ∨ ['E', '\''] <+: v ∨ ['e', '\''] <+: v

/-- Within an identifier and at the beginning of a text the same tokens are read, but for a literal
that looks behind. -/
theorem tokensFrom_of_inIdentifier (h : InIdentifier behind) (hv : ¬ LooksBehind v) :
    tokensFrom behind v = tokens v := by
  unfold LooksBehind at hv
  simp only [not_or, not_exists, not_and] at hv
  obtain ⟨hdollar, hupper, hlower⟩ := hv
  cases v with
  | nil => rw [tokens, tokensFrom, tokensFrom]
  | cons c rest =>
    have hnext : next behind c rest = next [] c rest := by
      apply next_congr
      · intro _
        exact iff_of_false h.mark fresh_nil.not_escapeMark
      · rintro rfl
        rw [dollarTag?_of_not_fresh h.fresh, eq_comm, Option.eq_none_iff_forall_ne_some]
        intro tag htag
        obtain ⟨hopens, hp⟩ := dollarTag?_eq_some_iff.mp htag
        exact hdollar tag hopens hp
    by_cases hmark : c = 'E' ∨ c = 'e'
    -- an E takes no more than itself, and what follows it is no quote
    · have hident : isIdentifierChar c = true := by
        rcases hmark with rfl | rfl <;> decide
      have hrest : rest.head? ≠ some '\'' := by
        intro hquote
        obtain ⟨more, rfl⟩ := List.head?_eq_some_iff.mp hquote
        rcases hmark with rfl | rfl
        · exact hupper (List.prefix_append ['E', '\''] more)
        · exact hlower (List.prefix_append ['e', '\''] more)
      rw [tokens, tokensFrom, tokensFrom, next_mark hmark, next_mark hmark]
      exact congrArg _ (tokensFrom_cons_congr hident hrest)
    · apply tokensFrom_congr hnext
      obtain ⟨text, htext⟩ := exists_next_text behind c rest
      rw [htext]
      exact alike_of_token hmark text

/-- A closed dollar literal is one token, whatever comes behind it. -/
theorem tokensFrom_closed (htag : OpensTag behind tag)
    (hfirst : ∀ n < body.length, ¬ tag <+: (body ++ tag).drop n) (v : List Char) :
    tokensFrom behind (tag ++ (body ++ tag) ++ v) = ⟨.dollarLiteral, tag ++ (body ++ tag)⟩ ::
      tokensFrom ((tag ++ (body ++ tag)).reverse ++ behind) v :=
  (Splits.cons (.dollar htag hfirst) (splits_tokensFrom _ v)).eq_tokensFrom.symm

/-- A dollar literal ends within an identifier, as far as what follows can tell. -/
theorem OpensTag.inIdentifier (h : OpensTag behind tag) (s : List Char) :
    InIdentifier ((s ++ tag).reverse ++ behind) := by
  obtain ⟨name, rfl, -⟩ := h.name
  rw [← List.cons_append, ← List.append_assoc, List.reverse_append]
  exact inIdentifier_cons (by decide) (by decide) _

end Token

namespace Lexemes

variable {p tag body v : List Char}

/-- A closed dollar literal shows nothing, and what is behind it is lexed as what stands behind its
tag. -/
theorem ofText_closed (hend : Lexer.endMode .normal [] 0 p = .normal)
    (htag : OpensTag p.reverse tag) (hfirst : ∀ n < body.length, ¬ tag <+: (body ++ tag).drop n)
    (v : List Char) :
    let u := p ++ (tag ++ (body ++ tag))
    ofText (u ++ v) = ofText p ++ ofTokens u.length (tokensFrom u.reverse v) := by
  intro u
  obtain ⟨name, hname, -⟩ := htag.name
  have hdollar : tag ++ (body ++ tag) ++ v = '$' :: (name ++ ['$'] ++ (body ++ tag) ++ v) := by
    rw [hname]
    rfl
  have hscan := Lexer.scan_append hend (by simp) htag.fresh (name ++ ['$'] ++ (body ++ tag) ++ v)
  rw [← hdollar, List.append_nil, Nat.zero_add, Lexer.scan_normal p.reverse,
    tokensFrom_closed htag hfirst, ofTokens_cons, ofTokens_other (by simp [delimiter]) rfl,
    empty_append, ← List.append_assoc, ← List.reverse_append, ← List.length_append] at hscan
  exact hscan

/-- Behind a character that is no token's beginning the lexemes are those of the tokens there. -/
theorem ofText_underscore (v : List Char) :
    ofText ('_' :: v) = ofTokens 1 (tokensFrom ['_'] v) := by
  rw [Lexer.ofText_eq_ofTokens, tokens, tokensFrom, ofTokens_cons]
  rfl

end Lexemes

/-- Behind a text that ends outside of all tokens a dollar literal that is closed is passed over, and
what comes behind it is lexed as if it stood in an identifier: that is to say, as it is lexed by
itself, unless it begins with a literal that looks at what stands before it. -/
theorem lexing_behind_closed_literal {p tag body : List Char}
    (hend : Lexer.endMode .normal [] 0 p = .normal) (htag : OpensTag p.reverse tag)
    (hfirst : ∀ n < body.length, ¬ tag <+: (body ++ tag).drop n) (v : List Char) :
    let u := p ++ (tag ++ (body ++ tag))
    Lexemes.ofText (u ++ v) =
        Lexemes.ofText u ++ (Lexemes.ofText ('_' :: v)).shift (u.length - 1) ∧
      (¬ LooksBehind v →
        Lexemes.ofText (u ++ v) = Lexemes.ofText u ++ (Lexemes.ofText v).shift u.length) := by
  intro u
  have hclosed : Lexemes.ofText u = Lexemes.ofText p := by
    have h : Lexemes.ofText (u ++ []) =
        Lexemes.ofText p ++ Lexemes.ofTokens u.length (tokensFrom u.reverse []) :=
      Lexemes.ofText_closed hend htag hfirst []
    rwa [List.append_nil, tokensFrom, Lexemes.ofTokens_nil, Lexemes.append_empty] at h
  have hin : InIdentifier u.reverse := by
    have h := htag.inIdentifier (tag ++ body)
    rwa [List.append_assoc, ← List.reverse_append] at h
  have hbehind : Lexemes.ofText (u ++ v) =
      Lexemes.ofText u ++ Lexemes.ofTokens u.length (tokensFrom u.reverse v) := by
    rw [hclosed]
    exact Lexemes.ofText_closed hend htag hfirst v
  constructor
  · have hpos : 0 < u.length := by
      have := List.length_pos_iff.mpr htag.ne_nil
      simp [u]
      omega
    have hunderscore : InIdentifier ['_'] := inIdentifier_cons (by decide) (by decide) []
    rw [hbehind, Lexemes.ofText_underscore, ← Lexemes.ofTokens_shift, Nat.sub_add_cancel hpos,
      tokensFrom_of_alike (hin.alike hunderscore)]
  · intro hv
    rw [hbehind, tokensFrom_of_inIdentifier hin hv, Lexer.ofText_eq_ofTokens v,
      ← Lexemes.ofTokens_shift, Nat.add_zero]

/-- The body holds the tag of another literal, and a comment and a statement come behind. -/
theorem lexing_behind_closed_literal_of_dollars :
    let p := ['a', ';', ' ']
    let tag := ['$', 't', '$']
    let body := ['$', '$', ';']
    let v := [';', '-', '-', ';']
    Lexer.endMode .normal [] 0 p = .normal ∧ OpensTag p.reverse tag ∧
      (∀ n < body.length, ¬ tag <+: (body ++ tag).drop n) ∧ ¬ LooksBehind v ∧
      Lexemes.ofText (p ++ (tag ++ (body ++ tag)) ++ v) = ⟨[1, 12], [(13, 16)]⟩ := by
  intro p tag body v
  have hend : Lexer.endMode .normal [] 0 p = .normal := by decide +kernel
  have hfresh : Fresh p.reverse := by
    rintro _ ⟨⟩
    decide
  have htag : OpensTag p.reverse tag := by
    refine ⟨⟨['t'], rfl, List.forall_mem_singleton.mpr (by decide +kernel), ?_⟩, hfresh⟩
    rintro _ ⟨⟩
    decide
  have hfirst : ∀ n < body.length, ¬ tag <+: (body ++ tag).drop n := by decide
  have hv : ¬ LooksBehind v := by
    rintro (⟨other, hother, hp⟩ | hp | hp)
    · obtain ⟨name, rfl, -⟩ := hother.name
      exact absurd (List.cons_prefix_cons.mp hp).1 (by decide)
    · exact absurd hp (by decide)
    · exact absurd hp (by decide)
  refine ⟨hend, htag, hfirst, hv, ?_⟩
  rw [(lexing_behind_closed_literal hend htag hfirst v).2 hv]
  decide +kernel

/-- Of two dollar literals side by side the second one is not read as a literal. -/
theorem second_literal_is_cut :
    ¬ ∀ p tag body v : List Char, Lexer.endMode .normal [] 0 p = .normal → OpensTag p.reverse tag →
      (∀ n < body.length, ¬ tag <+: (body ++ tag).drop n) →
      let u := p ++ (tag ++ (body ++ tag))
      Lexemes.ofText (u ++ v) = Lexemes.ofText u ++ (Lexemes.ofText v).shift u.length := by
  intro h
  have htag : OpensTag [] ['$', '$'] := ⟨⟨[], rfl, by simp, by simp⟩, fresh_nil⟩
  have hlexed := h [] ['$', '$'] ['a'] ['$', '$', ';', '$', '$'] (by decide +kernel) htag (by decide)
  exact absurd (congrArg Lexemes.delimiters hlexed) (by decide +kernel)

end CaretSql
