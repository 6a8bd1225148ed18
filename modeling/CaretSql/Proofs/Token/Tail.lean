import CaretSql.Proofs.Token.Grammar

/-! The tails of tokens against the grammar. Each tail takes what the grammar lets stand inside and
the end that closes it; where nothing closes it, it takes the whole text. -/

namespace CaretSql.Token

open Lexer

variable {body rest s tag : List Char}

theorem plainTail_cons {c : Char} (hc : c ≠ '\'') (s : List Char) :
    plainTail (c :: s) = c :: plainTail s := by
  rw [plainTail]
  · intro _ h
    exact absurd h hc
  · exact hc

theorem plainTail_open (h : PlainBody body) : plainTail body = body := by
  induction h with
  | nil => rfl
  | other hc _ ih => rw [plainTail_cons hc, ih]
  | doubled _ ih => rw [plainTail, ih]

theorem plainTail_close (hrest : rest.head? ≠ some '\'') : plainTail ('\'' :: rest) = ['\''] := by
  rw [plainTail]
  intro more h
  rw [h] at hrest
  exact hrest rfl

theorem plainTail_closed (h : PlainBody body) (hrest : rest.head? ≠ some '\'') :
    plainTail (body ++ '\'' :: rest) = body ++ ['\''] := by
  induction h with
  | nil => exact plainTail_close hrest
  | other hc _ ih => rw [List.cons_append, plainTail_cons hc, ih, List.cons_append]
  | doubled _ ih => rw [List.cons_append, List.cons_append, plainTail, ih]; rfl

/-- A text is the inside of a plain literal or begins with one and a lone quote. -/
theorem plainBody_cases (s : List Char) :
    PlainBody s ∨ ∃ body rest, s = body ++ '\'' :: rest ∧ PlainBody body ∧
      rest.head? ≠ some '\'' := by
  fun_induction plainTail s with
  | case1 => exact Or.inl .nil
  | case2 rest ih =>
    rcases ih with h | ⟨body, more, rfl, hbody, hmore⟩
    · exact Or.inl (.doubled h)
    · exact Or.inr ⟨'\'' :: '\'' :: body, more, rfl, .doubled hbody, hmore⟩
  | case3 rest hne =>
    refine Or.inr ⟨[], rest, rfl, .nil, ?_⟩
    intro h
    obtain ⟨more, rfl⟩ := List.head?_eq_some_iff.mp h
    exact hne more rfl
  | case4 c rest _ hc ih =>
    rcases ih with h | ⟨body, more, rfl, hbody, hmore⟩
    · exact Or.inl (.other hc h)
    · exact Or.inr ⟨c :: body, more, rfl, .other hc hbody, hmore⟩

theorem escapeTail_cons {c : Char} (hc : c ≠ '\'') (hb : c ≠ '\\') (s : List Char) :
    escapeTail (c :: s) = c :: escapeTail s := by
  rw [escapeTail]
  · intro _ _ h
    exact absurd h hb
  · intro _ h
    exact absurd h hc
  · exact hc

theorem escapeTail_open (h : EscapeBody body) : escapeTail body = body := by
  induction h with
  | nil => rfl
  | other hc hb _ ih => rw [escapeTail_cons hc hb, ih]
  | doubled _ ih => rw [escapeTail, ih]
  | escaped c _ ih => rw [escapeTail, ih]

theorem escapeTail_cut (h : EscapeBody body) : escapeTail (body ++ ['\\']) = body ++ ['\\'] := by
  induction h with
  | nil => rfl
  | other hc hb _ ih => rw [List.cons_append, escapeTail_cons hc hb, ih]
  | doubled _ ih => rw [List.cons_append, List.cons_append, escapeTail, ih]
  | escaped c _ ih => rw [List.cons_append, List.cons_append, escapeTail, ih]

theorem escapeTail_close (hrest : rest.head? ≠ some '\'') :
    escapeTail ('\'' :: rest) = ['\''] := by
  rw [escapeTail]
  intro more h
  rw [h] at hrest
  exact hrest rfl

theorem escapeTail_closed (h : EscapeBody body) (hrest : rest.head? ≠ some '\'') :
    escapeTail (body ++ '\'' :: rest) = body ++ ['\''] := by
  induction h with
  | nil => exact escapeTail_close hrest
  | other hc hb _ ih => rw [List.cons_append, escapeTail_cons hc hb, ih, List.cons_append]
  | doubled _ ih => rw [List.cons_append, List.cons_append, escapeTail, ih]; rfl
  | escaped c _ ih => rw [List.cons_append, List.cons_append, escapeTail, ih]; rfl

/-- A text is the inside of an escape literal, perhaps with a backslash cut off from what it takes
along, or begins with one and a lone quote. -/
theorem escapeBody_cases (s : List Char) :
    EscapeBody s ∨ (∃ body, s = body ++ ['\\'] ∧ EscapeBody body) ∨
      ∃ body rest, s = body ++ '\'' :: rest ∧ EscapeBody body ∧ rest.head? ≠ some '\'' := by
  fun_induction escapeTail s with
  | case1 => exact Or.inl .nil
  | case2 c rest ih =>
    rcases ih with h | ⟨body, rfl, hbody⟩ | ⟨body, more, rfl, hbody, hmore⟩
    · exact Or.inl (.escaped c h)
    · exact Or.inr (Or.inl ⟨'\\' :: c :: body, rfl, .escaped c hbody⟩)
    · exact Or.inr (Or.inr ⟨'\\' :: c :: body, more, rfl, .escaped c hbody, hmore⟩)
  | case3 rest ih =>
    rcases ih with h | ⟨body, rfl, hbody⟩ | ⟨body, more, rfl, hbody, hmore⟩
    · exact Or.inl (.doubled h)
    · exact Or.inr (Or.inl ⟨'\'' :: '\'' :: body, rfl, .doubled hbody⟩)
    · exact Or.inr (Or.inr ⟨'\'' :: '\'' :: body, more, rfl, .doubled hbody, hmore⟩)
  | case4 rest hne =>
    refine Or.inr (Or.inr ⟨[], rest, rfl, .nil, ?_⟩)
    intro h
    obtain ⟨more, rfl⟩ := List.head?_eq_some_iff.mp h
    exact hne more rfl
  | case5 c rest hb _ hc ih =>
    by_cases hslash : c = '\\'
    · subst hslash
      cases rest with
      | nil => exact Or.inr (Or.inl ⟨[], rfl, .nil⟩)
      | cons d more => exact absurd rfl (hb d more rfl)
    · rcases ih with h | ⟨body, rfl, hbody⟩ | ⟨body, more, rfl, hbody, hmore⟩
      · exact Or.inl (.other hc hslash h)
      · exact Or.inr (Or.inl ⟨c :: body, rfl, .other hc hslash hbody⟩)
      · exact Or.inr (Or.inr ⟨c :: body, more, rfl, .other hc hslash hbody, hmore⟩)

theorem quotedTail_open (h : '"' ∉ body) : quotedTail body = body := by
  induction body with
  | nil => rfl
  | cons c body ih =>
    have hc : c ≠ '"' := (List.ne_of_not_mem_cons h).symm
    rw [quotedTail, if_neg hc, ih (List.not_mem_of_not_mem_cons h)]

theorem quotedTail_closed (h : '"' ∉ body) : quotedTail (body ++ '"' :: rest) = body ++ ['"'] := by
  induction body with
  | nil => rfl
  | cons c body ih =>
    have hc : c ≠ '"' := (List.ne_of_not_mem_cons h).symm
    rw [List.cons_append, quotedTail, if_neg hc, ih (List.not_mem_of_not_mem_cons h),
      List.cons_append]

theorem dollarTail_open (h : ¬ tag <:+: body) : dollarTail tag body = body := by
  induction body with
  | nil => rfl
  | cons c body ih =>
    have hhead : ¬ tag <+: c :: body := fun hp => h hp.isInfix
    have hbody : ¬ tag <:+: body := fun hi => h (List.infix_cons hi)
    rw [dollarTail, if_neg (by simpa using hhead), ih hbody]

/-- The first tag that follows ends a dollar literal. -/
theorem dollarTail_closed (hne : tag ≠ [])
    (h : ∀ n < body.length, ¬ tag <+: (body ++ tag).drop n) :
    dollarTail tag (body ++ (tag ++ rest)) = body ++ tag := by
  induction body with
  | nil =>
    obtain ⟨c, name, rfl⟩ := List.exists_cons_of_ne_nil hne
    rw [List.nil_append, List.cons_append, dollarTail, ← List.cons_append,
      if_pos (by simp), List.nil_append]
  | cons c body ih =>
    have hhead : ¬ tag <+: c :: (body ++ tag ++ rest) := by
      intro hp
      apply h 0 (by simp)
      have hle : tag.length ≤ (c :: (body ++ tag)).length := by simp; omega
      exact List.prefix_of_prefix_length_le hp (List.prefix_append _ rest) hle
    have hbody : ∀ n < body.length, ¬ tag <+: (body ++ tag).drop n := by
      intro n hn
      simpa using h (n + 1) (by simpa using hn)
    rw [List.cons_append, dollarTail, if_neg (by simpa using hhead), ih hbody, List.cons_append]

theorem exists_first (h : tag <:+: s) :
    ∃ body rest, s = body ++ (tag ++ rest) ∧
      ∀ n < body.length, ¬ tag <+: (body ++ tag).drop n := by
  induction s with
  | nil =>
    obtain rfl := List.eq_nil_of_infix_nil h
    exact ⟨[], [], rfl, by simp⟩
  | cons c s ih =>
    by_cases hp : tag <+: c :: s
    · obtain ⟨rest, hrest⟩ := hp
      exact ⟨[], rest, hrest.symm, by simp⟩
    · obtain ⟨body, rest, rfl, hfirst⟩ := ih ((List.infix_cons_iff.mp h).resolve_left hp)
      refine ⟨c :: body, rest, rfl, ?_⟩
      intro n hn
      cases n with
      | zero =>
        intro hpre
        apply hp
        rw [← List.append_assoc, ← List.cons_append]
        exact hpre.trans (List.prefix_append _ rest)
      | succ n => simpa using hfirst n (by simpa using hn)

theorem BlockBody.ne_nil (h : BlockBody s) : s ≠ [] := by
  cases h <;> simp

theorem blockTail_cons {c : Char} (hopen : ¬ ['/', '*'] <+: c :: s)
    (hclose : ¬ ['*', '/'] <+: c :: s) (depth : Nat) :
    blockTail depth (c :: s) = c :: blockTail depth s := by
  have hslash : ∀ more, c = '/' → s = '*' :: more → False := by
    rintro more rfl rfl
    exact hopen (List.prefix_append ['/', '*'] more)
  have hstar : ∀ more, c = '*' → s = '/' :: more → False := by
    rintro more rfl rfl
    exact hclose (List.prefix_append ['*', '/'] more)
  rw [blockTail]
  · exact hslash
  · intro more _ hc hs
    exact hstar more hc hs
  · intro _ more _ hc hs
    exact hstar more hc hs

/-- The inside of a comment closes one comment, and the text after it belongs to the comment
around it if there is one. -/
theorem blockTail_append (h : BlockBody body) (rest : List Char) :
    blockTail 0 (body ++ rest) = body ∧
      ∀ depth, blockTail (depth + 1) (body ++ rest) = body ++ blockTail depth rest := by
  induction h generalizing rest with
  | close => exact ⟨rfl, fun depth => by rw [List.cons_append, List.cons_append, blockTail]; rfl⟩
  | @other c s hopen hclose hs ih =>
    obtain ⟨d, more, rfl⟩ := List.exists_cons_of_ne_nil hs.ne_nil
    have two : ∀ pair : List Char, pair.length = 2 → ¬ pair <+: c :: d :: more →
        ¬ pair <+: c :: (d :: more ++ rest) := by
      intro pair hlen hnot hp
      exact hnot (List.prefix_of_prefix_length_le hp (List.prefix_append _ rest)
        (by simp [hlen]))
    have hcons := fun depth => blockTail_cons (two _ rfl hopen) (two _ rfl hclose) depth
    obtain ⟨hzero, hsucc⟩ := ih rest
    refine ⟨?_, ?_⟩
    · rw [List.cons_append, hcons, hzero]
    · intro depth
      rw [List.cons_append, hcons, hsucc]
      rfl
  | @nested s t hs ht ihs iht =>
    have hin : ∀ depth, blockTail depth ('/' :: '*' :: (s ++ t) ++ rest) =
        '/' :: '*' :: (s ++ blockTail depth (t ++ rest)) := by
      intro depth
      rw [List.cons_append, List.cons_append, List.append_assoc, blockTail, (ihs _).2]
    refine ⟨?_, ?_⟩
    · rw [hin, (iht rest).1]
    · intro depth
      rw [hin, (iht rest).2, List.cons_append, List.cons_append, List.append_assoc]

/-- The text ends a comment and then as many others as `depth` says. -/
def Closes : Nat → List Char → Prop
  | 0, s => BlockBody s
  | depth + 1, s => ∃ first more, s = first ++ more ∧ BlockBody first ∧ Closes depth more

theorem Closes.nested {depth : Nat} (h : Closes (depth + 1) s) :
    Closes depth ('/' :: '*' :: s) := by
  obtain ⟨first, more, rfl, hfirst, hmore⟩ := h
  cases depth with
  | zero => exact BlockBody.nested hfirst hmore
  | succ depth =>
    obtain ⟨second, last, rfl, hsecond, hlast⟩ := hmore
    exact ⟨'/' :: '*' :: (first ++ second), last, by simp, BlockBody.nested hfirst hsecond, hlast⟩

theorem Closes.other {depth : Nat} {c : Char} (hopen : ¬ ['/', '*'] <+: c :: s)
    (hclose : ¬ ['*', '/'] <+: c :: s) (h : Closes depth s) : Closes depth (c :: s) := by
  cases depth with
  | zero => exact BlockBody.other hopen hclose h
  | succ depth =>
    obtain ⟨first, more, rfl, hfirst, hmore⟩ := h
    have hpre : c :: first <+: c :: (first ++ more) := List.prefix_append (c :: first) more
    exact ⟨c :: first, more, rfl, BlockBody.other (fun hp => hopen (hp.trans hpre))
      (fun hp => hclose (hp.trans hpre)) hfirst, hmore⟩

theorem blockTail_isPrefix (depth : Nat) (s : List Char) : blockTail depth s <+: s := by
  fun_induction blockTail depth s with
  | case1 => exact List.nil_prefix
  | case2 depth rest ih => simpa using ih
  | case3 => exact ⟨_, rfl⟩
  | case4 depth rest ih => simpa using ih
  | case5 depth c rest _ _ _ ih => simpa using ih

/-- A block comment ends with the last of the comments that are open, or with the text. -/
theorem blockTail_cases (depth : Nat) (s : List Char) :
    Closes depth (blockTail depth s) ∨ blockTail depth s = s := by
  fun_induction blockTail depth s with
  | case1 => exact Or.inr rfl
  | case2 depth rest ih =>
    rcases ih with h | h
    · exact Or.inl h.nested
    · exact Or.inr (by rw [h])
  | case3 rest => exact Or.inl .close
  | case4 depth rest ih =>
    rcases ih with h | h
    · exact Or.inl ⟨['*', '/'], _, rfl, .close, h⟩
    · exact Or.inr (by rw [h])
  | case5 depth c rest hopen hclose0 hclose ih =>
    rcases ih with h | h
    · have hpre : c :: blockTail depth rest <+: c :: rest := by
        simpa using blockTail_isPrefix depth rest
      refine Or.inl (h.other ?_ ?_)
      · intro hp
        obtain ⟨more, hm⟩ := hp.trans hpre
        obtain ⟨rfl, rfl⟩ := List.cons.inj hm
        exact hopen more rfl rfl
      · intro hp
        obtain ⟨more, hm⟩ := hp.trans hpre
        obtain ⟨rfl, rfl⟩ := List.cons.inj hm
        cases depth with
        | zero => exact hclose0 more rfl rfl rfl
        | succ depth => exact hclose depth more rfl rfl rfl
    · exact Or.inr (by rw [h])

end CaretSql.Token
