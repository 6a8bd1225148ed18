import CaretSql.ErrorLocation
import CaretSql.Proofs.Character.Trim
import CaretSql.Proofs.Token.Restart

/-! Quotes that a text does not close. The highlight of a failure takes one for the beginning of a quoted
piece that goes on behind the text. Where a plain literal or a quoted identifier really begins there,
the text falls into tokens one of which goes on behind it too. -/

namespace CaretSql

namespace ErrorLocation

variable {quote c : Char} {s t : List Char}

/-- What stands behind a quote without closing it: other characters and doubled quotes. -/
inductive Unclosed (quote : Char) : List Char → Prop
  | nil : Unclosed quote []
  | other {c : Char} {s : List Char} (hc : c ≠ quote) (h : Unclosed quote s) :
      Unclosed quote (c :: s)
  | doubled {s : List Char} (h : Unclosed quote s) : Unclosed quote (quote :: quote :: s)

/-- The text begins with a quote that it does not close. -/
def LeftOpen (s : List Char) : Prop :=
  ∃ quote rest, s = quote :: rest ∧ (quote = '\'' ∨ quote = '"') ∧ Unclosed quote rest

theorem quotedWidth_cons (hc : c ≠ quote) (s : List Char) :
    quotedWidth quote (c :: s) = quotedWidth quote s + 1 := by
  cases s with
  | nil => rfl
  | cons d rest => rw [quotedWidth, if_neg hc]

theorem quotedWidth_le (quote : Char) (s : List Char) : quotedWidth quote s ≤ s.length := by
  fun_induction quotedWidth quote s <;> simp_all

/-- An open quote takes all of its text and goes on behind it. -/
theorem Unclosed.quotedWidth_append (h : Unclosed quote s) (t : List Char) :
    quotedWidth quote (s ++ t) = s.length + quotedWidth quote t := by
  induction h with
  | nil => simp
  | other hc _ ih =>
    rw [List.cons_append, quotedWidth_cons hc, ih, List.length_cons]
    omega
  | @doubled s _ ih =>
    rw [List.cons_append, List.cons_append, quotedWidth, if_pos rfl, if_pos rfl, ih,
      List.length_cons, List.length_cons]
    omega

theorem quotedWidth_unclosed (h : Unclosed quote s) : quotedWidth quote s = s.length := by
  simpa [quotedWidth] using h.quotedWidth_append []

theorem quotedWidth_append (h : ¬ Unclosed quote s) (ht : t.head? ≠ some quote) :
    quotedWidth quote (s ++ t) = quotedWidth quote s := by
  fun_induction quotedWidth quote s with
  | case1 => exact absurd .nil h
  | case2 c =>
    by_cases hc : c = quote
    · subst hc
      cases t with
      | nil => rfl
      | cons d t =>
        have hd : d ≠ c := by simpa using ht
        rw [List.cons_append, List.nil_append, quotedWidth, if_pos rfl, if_neg hd]
    · exact absurd (.other hc .nil) h
  | case3 rest ih =>
    rw [List.cons_append, List.cons_append, quotedWidth, if_pos rfl, if_pos rfl,
      ih fun hrest => h (.doubled hrest)]
  | case4 d rest hd =>
    rw [List.cons_append, List.cons_append, quotedWidth, if_pos rfl, if_neg hd]
  | case5 c d rest hc ih =>
    rw [List.cons_append, quotedWidth_cons hc, ih fun hrest => h (.other hc hrest)]

theorem width_le (s : List Char) : width s ≤ s.length := by
  fun_cases width s with
  | case1 | case2 => exact Nat.zero_le _
  | case3 c rest =>
    have := (List.takeWhile_sublist isWordChar (l := rest)).length_le
    rw [List.length_cons]
    omega
  | case4 c rest =>
    have := quotedWidth_le c rest
    rw [List.length_cons]
    omega
  | case5 c rest =>
    rw [List.length_cons]
    omega

/-- Nothing at the head of a text belongs to a word or a quoted piece that ends right before it. -/
def Separates (t : List Char) : Prop :=
  ∀ c ∈ t.head?, isWordChar c = false ∧ c ≠ '\'' ∧ c ≠ '"'

theorem separates_of_isBlank (h : ∀ c ∈ t.head?, Character.isBlank c = true ∨ c = ';') :
    Separates t := by
  intro c hc
  rcases h c hc with hblank | rfl
  · exact Character.of_isBlank (P := fun c => isWordChar c = false ∧ c ≠ '\'' ∧ c ≠ '"')
      (by decide +kernel) hblank
  · decide +kernel

theorem takeWhile_append_separates (s : List Char) (ht : Separates t) :
    (s ++ t).takeWhile isWordChar = s.takeWhile isWordChar := by
  have hnil : t.takeWhile isWordChar = [] := by
    cases t with
    | nil => rfl
    | cons c t => exact List.takeWhile_cons_of_neg (by simp [(ht c rfl).1])
  rw [List.takeWhile_append, hnil, List.append_nil]
  split
  · next hlen => rw [(List.takeWhile_prefix isWordChar).eq_of_length hlen]
  · rfl

/-- Of a text that does not begin with an open quote, nothing behind it is highlighted. -/
theorem width_append (hs : s ≠ []) (hopen : ¬ LeftOpen s) (ht : Separates t) :
    width (s ++ t) = width s := by
  obtain ⟨c, rest, rfl⟩ := List.exists_cons_of_ne_nil hs
  rw [List.cons_append, width, width, takeWhile_append_separates rest ht]
  split
  · rfl
  split
  · rfl
  split
  · next hquote =>
    rw [quotedWidth_append fun h => hopen ⟨c, rest, rfl, hquote, h⟩]
    intro hhead
    rcases hquote with rfl | rfl
    · exact (ht _ hhead).2.1 rfl
    · exact (ht _ hhead).2.2 rfl
  · rfl

theorem plain_quote (h : c = '\'' ∨ c = '"') :
    Character.isBlank c = false ∧ isWordChar c = false := by
  rcases h with rfl | rfl <;> decide +kernel

theorem Unclosed.append (h : Unclosed quote s) (ht : quote ∉ t) : Unclosed quote (s ++ t) := by
  induction h with
  | nil =>
    induction t with
    | nil => exact .nil
    | cons c t ih =>
      exact .other (List.ne_of_not_mem_cons ht).symm (ih (List.not_mem_of_not_mem_cons ht))
  | other hc _ ih => exact .other hc ih
  | doubled _ ih => exact .doubled ih

/-- An open quote with only blanks behind it is not closed by the text. -/
theorem LeftOpen.append_blanks (h : LeftOpen s)
    (ht : ∀ c ∈ t, Character.isBlank c = true) : LeftOpen (s ++ t) := by
  obtain ⟨quote, u, rfl, hquote, hu⟩ := h
  refine ⟨quote, u ++ t, rfl, hquote, hu.append fun hmem => ?_⟩
  have hblank := ht quote hmem
  rw [(plain_quote hquote).1] at hblank
  cases hblank

/-- Text that does not close a quote has none of them, or its first one is doubled. -/
theorem Unclosed.not_mem_or_doubled (h : Unclosed quote s) :
    quote ∉ s ∨ ∃ body more, s = body ++ quote :: quote :: more ∧ quote ∉ body ∧
      Unclosed quote more := by
  induction h with
  | nil => exact .inl List.not_mem_nil
  | @other c s hc _ ih =>
    rcases ih with hnone | ⟨body, more, rfl, hbody, hmore⟩
    · exact .inl (List.not_mem_cons_of_ne_of_not_mem hc.symm hnone)
    · exact .inr ⟨c :: body, more, rfl, List.not_mem_cons_of_ne_of_not_mem hc.symm hbody, hmore⟩
  | @doubled s h _ => exact .inr ⟨[], s, rfl, List.not_mem_nil, h⟩

theorem LeftOpen.width_eq (h : LeftOpen s) : width s = s.length := by
  obtain ⟨quote, rest, rfl, hquote, hrest⟩ := h
  obtain ⟨hblank, hword⟩ := plain_quote hquote
  rw [width, if_neg (by simp [hblank]), if_neg (by simp [hword]), if_pos hquote,
    quotedWidth_unclosed hrest, List.length_cons]

end ErrorLocation

namespace Token

open ErrorLocation

variable {quote : Char} {u v behind : List Char} {t : Token}

theorem plainBody_of_unclosed (h : Unclosed '\'' u) : PlainBody u := by
  induction h with
  | nil => exact .nil
  | other hc _ ih => exact .other hc ih
  | doubled _ ih => exact .doubled ih

theorem plainTail_append (h : PlainBody u) (v : List Char) :
    plainTail (u ++ v) = u ++ plainTail v := by
  induction h with
  | nil => rfl
  | other hc _ ih => rw [List.cons_append, plainTail_cons hc, ih, List.cons_append]
  | doubled _ ih => rw [List.cons_append, List.cons_append, plainTail, ih]; rfl

/-- The token at `o` begins before `stop` and goes on to the end of the text, or to a quote behind
`stop`. -/
structure Reaches (quote : Char) (stop total o : Nat) (t : Token) : Prop where
  start : o < stop
  stop : o + t.text.length = total ∨
    stop < o + t.text.length ∧ t.text.getLast? = some quote

theorem reaches_plain (hu : Unclosed '\'' u) (v : List Char) (offset : Nat) :
    Reaches '\'' (offset + (u.length + 1)) (offset + (u.length + 1) + v.length) offset
      ⟨.plainLiteral, '\'' :: plainTail (u ++ v)⟩ := by
  rw [plainTail_append (plainBody_of_unclosed hu)]
  refine ⟨by omega, ?_⟩
  rcases plainBody_cases v with hopen | ⟨body, rest, rfl, hbody, hrest⟩
  · left
    rw [plainTail_open hopen, List.length_cons, List.length_append]
    omega
  · right
    rw [plainTail_closed hbody hrest, ← List.append_assoc, ← List.cons_append, List.getLast?_concat]
    refine ⟨?_, rfl⟩
    simp only [List.length_append, List.length_cons, List.length_nil]
    omega

theorem tokensFrom_quoted {body : List Char} (hbody : '"' ∉ body) (behind rest : List Char) :
    tokensFrom behind ('"' :: (body ++ '"' :: rest)) =
      ⟨.quotedIdentifier, '"' :: (body ++ ['"'])⟩ ::
        tokensFrom (('"' :: (body ++ ['"'])).reverse ++ behind) rest := by
  have hdrop : (body ++ '"' :: rest).drop (body ++ ['"']).length = rest :=
    (congrArg (List.drop _) (List.append_cons body '"' rest)).trans List.drop_left
  rw [tokensFrom, next_quoted, quotedTail_closed hbody]
  exact congrArg (_ :: tokensFrom _ ·) hdrop

/-- A doubled quote ends one quoted identifier and begins the next, and the last of them goes on. -/
theorem exists_reaches_quoted (hu : Unclosed '"' u) (v behind : List Char) (offset : Nat) :
    ∃ o t, (o, t) ∈ place offset (tokensFrom behind ('"' :: (u ++ v))) ∧
      Reaches '"' (offset + (u.length + 1)) (offset + (u.length + 1) + v.length) o t := by
  induction hn : u.length using Nat.strong_induction_on generalizing u behind offset with
  | _ n ih =>
    subst hn
    rcases hu.not_mem_or_doubled with hnone | ⟨body, more, rfl, hbody, hmore⟩
    · by_cases hclosed : '"' ∈ v
      · obtain ⟨body, rest, rfl, hbody⟩ := List.eq_append_cons_of_mem hclosed
        have hinside : '"' ∉ u ++ body := List.not_mem_append hnone hbody
        rw [← List.append_assoc, tokensFrom_quoted hinside]
        refine ⟨offset, _, List.mem_cons_self, by omega, .inr ⟨?_, ?_⟩⟩
        · simp only [List.length_append, List.length_cons, List.length_nil]
          omega
        · rw [← List.cons_append, List.getLast?_concat]
      · rw [tokensFrom, next_quoted, quotedTail_open (List.not_mem_append hnone hclosed)]
        refine ⟨offset, _, List.mem_cons_self, by omega, .inl ?_⟩
        rw [List.length_cons, List.length_append]
        omega
    · obtain ⟨o, t, hmem, hreaches⟩ := ih more.length (by simp; omega) hmore
        (('"' :: (body ++ ['"'])).reverse ++ behind) (offset + ('"' :: (body ++ ['"'])).length) rfl
      rw [List.append_assoc, List.cons_append, List.cons_append, tokensFrom_quoted hbody]
      refine ⟨o, t, List.mem_cons_of_mem _ hmem, ?_⟩
      have hstop : offset + ('"' :: (body ++ ['"'])).length + (more.length + 1) =
          offset + ((body ++ '"' :: '"' :: more).length + 1) := by
        simp only [List.length_append, List.length_cons, List.length_nil]
        omega
      rwa [hstop] at hreaches

theorem exists_reaches (hquote : quote = '\'' ∨ quote = '"') (hu : Unclosed quote u)
    (v : List Char) (hkind : ∀ t ∈ (tokensFrom behind (quote :: (u ++ v))).head?,
      t.kind = .plainLiteral ∨ t.kind = .quotedIdentifier) (offset : Nat) :
    ∃ o t, (o, t) ∈ place offset (tokensFrom behind (quote :: (u ++ v))) ∧
      Reaches quote (offset + (u.length + 1)) (offset + (u.length + 1) + v.length) o t := by
  rcases hquote with rfl | rfl
  · rw [tokensFrom] at hkind ⊢
    have hmark : ¬ EscapeMark behind := by
      intro hmark
      have hescape := hkind _ rfl
      rw [next_escape hmark] at hescape
      rcases hescape with h | h <;> cases h
    rw [next_plain hmark]
    exact ⟨offset, _, List.mem_cons_self, reaches_plain hu v offset⟩
  · exact exists_reaches_quoted hu v behind offset

/-- From the beginning of a token on, the tokens are those of the text from there. -/
theorem exists_behind {s : List Char} {o : Nat} (h : (o, t) ∈ place 0 (tokens s)) :
    ∃ behind, (tokensFrom behind (s.drop o)).head? = some t ∧
      place o (tokensFrom behind (s.drop o)) ⊆ place 0 (tokens s) := by
  obtain ⟨before, after, htokens, ho⟩ := exists_before h
  rw [Nat.zero_add] at ho
  have hsplits := splits_tokens s
  rw [htokens] at hsplits
  have hjoined := hsplits.joined_eq
  have hdrop : s.drop o = joined (t :: after) := by
    rw [← hjoined, joined_append, ho, List.drop_left]
  have hrest := splits_iff.mp hsplits.append.2
  refine ⟨(joined before).reverse ++ [], ?_, ?_⟩
  · rw [hdrop, ← hrest]
    rfl
  · rw [hdrop, ← hrest, htokens, place_append, Nat.zero_add, ho]
    exact List.subset_append_right _ _

end Token

end CaretSql
