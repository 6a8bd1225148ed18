import CaretSql.Proofs.Token.Seam

/-! Tokens cut short. What a token takes of a text it takes of every beginning of it, so up to a
place inside of a token there is that token as far as it goes, or single characters; there is no
delimiter. -/

namespace CaretSql.Token

open Lexer

variable {behind rest s u x tag : List Char} {t : Token} {c : Char}

theorem isPrefix_pair {c d : Char} (h : x <+: c :: d :: s) :
    x = [] ∨ x = [c] ∨ ∃ y, x = c :: d :: y ∧ y <+: s := by
  rcases List.prefix_cons_iff.mp h with rfl | ⟨y, rfl, hy⟩
  · exact Or.inl rfl
  · rcases List.prefix_cons_iff.mp hy with rfl | ⟨z, rfl, hz⟩
    · exact Or.inr (Or.inl rfl)
    · exact Or.inr (Or.inr ⟨z, rfl, hz⟩)

theorem plainTail_of_isPrefix (h : x <+: plainTail s) : plainTail x = x := by
  fun_induction plainTail s generalizing x with
  | case1 =>
    obtain rfl := List.prefix_nil.mp h
    rfl
  | case2 rest ih =>
    rcases isPrefix_pair h with rfl | rfl | ⟨y, rfl, hy⟩
    · rfl
    · rfl
    · rw [plainTail, ih hy]
  | case3 =>
    rcases List.prefix_cons_iff.mp h with rfl | ⟨y, rfl, hy⟩
    · rfl
    · obtain rfl := List.prefix_nil.mp hy
      rfl
  | case4 c rest _ hc ih =>
    rcases List.prefix_cons_iff.mp h with rfl | ⟨y, rfl, hy⟩
    · rfl
    · rw [plainTail_cons hc, ih hy]

theorem escapeTail_of_isPrefix (h : x <+: escapeTail s) : escapeTail x = x := by
  fun_induction escapeTail s generalizing x with
  | case1 =>
    obtain rfl := List.prefix_nil.mp h
    rfl
  | case2 c rest ih =>
    rcases isPrefix_pair h with rfl | rfl | ⟨y, rfl, hy⟩
    · rfl
    · rfl
    · rw [escapeTail, ih hy]
  | case3 rest ih =>
    rcases isPrefix_pair h with rfl | rfl | ⟨y, rfl, hy⟩
    · rfl
    · rfl
    · rw [escapeTail, ih hy]
  | case4 =>
    rcases List.prefix_cons_iff.mp h with rfl | ⟨y, rfl, hy⟩
    · rfl
    · obtain rfl := List.prefix_nil.mp hy
      rfl
  | case5 c rest hb _ hc ih =>
    rcases List.prefix_cons_iff.mp h with rfl | ⟨y, rfl, hy⟩
    · rfl
    by_cases hslash : c = '\\'
    · subst hslash
      cases rest with
      | nil =>
        obtain rfl := List.prefix_nil.mp hy
        rfl
      | cons d more => exact absurd rfl (hb d more rfl)
    · rw [escapeTail_cons hc hslash, ih hy]

theorem quotedTail_of_isPrefix (h : x <+: quotedTail s) : quotedTail x = x := by
  induction s generalizing x with
  | nil =>
    obtain rfl := List.prefix_nil.mp h
    rfl
  | cons c s ih =>
    rw [quotedTail] at h
    split at h
    · next hc =>
      rcases List.prefix_cons_iff.mp h with rfl | ⟨y, rfl, hy⟩
      · rfl
      · obtain rfl := List.prefix_nil.mp hy
        rfl
    · next hc =>
      rcases List.prefix_cons_iff.mp h with rfl | ⟨y, rfl, hy⟩
      · rfl
      · rw [quotedTail, if_neg hc, ih hy]

theorem dollarTail_isPrefix (tag s : List Char) : dollarTail tag s <+: s := by
  induction s with
  | nil => exact List.prefix_refl []
  | cons c s ih =>
    rw [dollarTail]
    split
    · next hp => simpa using hp
    · exact List.prefix_cons_iff.mpr (Or.inr ⟨_, rfl, ih⟩)

theorem dollarTail_of_isPrefix (hne : tag ≠ []) (h : x <+: dollarTail tag s) :
    dollarTail tag x = x := by
  induction s generalizing x with
  | nil =>
    obtain rfl := List.prefix_nil.mp h
    rfl
  | cons c s ih =>
    rw [dollarTail] at h
    split at h
    · by_cases hx : x = tag
      · have hclosed : dollarTail tag ([] ++ (tag ++ [])) = [] ++ tag :=
          dollarTail_closed hne (by simp)
        simpa [hx] using hclosed
      -- a part of the tag has no room for the tag
      · apply dollarTail_open
        intro hin
        exact hx (h.eq_of_length_le hin.length_le)
    · next hp =>
      rcases List.prefix_cons_iff.mp h with rfl | ⟨y, rfl, hy⟩
      · rfl
      · have hnot : ¬ tag <+: c :: y := by
          intro htag
          have hcs : c :: y <+: c :: s :=
            List.prefix_cons_iff.mpr (Or.inr ⟨y, rfl, hy.trans (dollarTail_isPrefix tag s)⟩)
          exact hp (by simpa using htag.trans hcs)
        rw [dollarTail, if_neg (by simpa using hnot), ih hy]

theorem blockTail_of_isPrefix {depth : Nat} (h : x <+: blockTail depth s) :
    blockTail depth x = x := by
  fun_induction blockTail depth s generalizing x with
  | case1 depth =>
    obtain rfl := List.prefix_nil.mp h
    rw [blockTail]
  | case2 depth rest ih =>
    rcases isPrefix_pair h with rfl | rfl | ⟨y, rfl, hy⟩
    · rw [blockTail]
    · simp [blockTail]
    · rw [blockTail, ih hy]
  | case3 =>
    rcases isPrefix_pair h with rfl | rfl | ⟨y, rfl, hy⟩
    · rfl
    · rfl
    · obtain rfl := List.prefix_nil.mp hy
      rfl
  | case4 depth rest ih =>
    rcases isPrefix_pair h with rfl | rfl | ⟨y, rfl, hy⟩
    · rw [blockTail]
    · simp [blockTail]
    · rw [blockTail, ih hy]
  | case5 depth c rest hopen hclose0 hclose ih =>
    rcases List.prefix_cons_iff.mp h with rfl | ⟨y, rfl, hy⟩
    · rw [blockTail]
    have hrest : y <+: rest := hy.trans (blockTail_isPrefix depth rest)
    rw [blockTail, ih hy]
    · rintro more rfl rfl
      obtain ⟨w, rfl⟩ := hrest
      exact hopen (more ++ w) rfl rfl
    · rintro more rfl rfl rfl
      obtain ⟨w, rfl⟩ := hrest
      exact hclose0 (more ++ w) rfl rfl rfl
    · rintro d more rfl rfl rfl
      obtain ⟨w, rfl⟩ := hrest
      exact hclose d (more ++ w) rfl rfl rfl

theorem not_delimiter_of_next (hnext : (next behind c x).text = c :: x)
    (hx : next behind c x ≠ delimiter) : delimiter ∉ tokensFrom behind (c :: x) := by
  have hnil : x.drop ((next behind c x).text.length - 1) = [] := by simp [hnext]
  rw [tokensFrom, hnil, tokensFrom]
  simpa using hx.symm

theorem not_delimiter_of_not_mem (h : ';' ∉ s) : delimiter ∉ tokensFrom behind s := by
  intro hmem
  have hjoined : ';' ∈ joined (tokensFrom behind s) :=
    List.mem_flatten.mpr ⟨_, List.mem_map_of_mem hmem, List.mem_singleton_self _⟩
  rw [(splits_tokensFrom behind s).joined_eq] at hjoined
  exact h hjoined

theorem OpensTag.semicolon_not_mem (h : OpensTag behind tag) : ';' ∉ tag := by
  obtain ⟨name, rfl, hname, -⟩ := h.name
  intro hmem
  have hname' : ';' ∈ name := by simpa using hmem
  exact absurd (hname _ hname') (by decide +kernel)

/-- The beginning of a single character is all of it. -/
theorem eq_of_isPrefix_singleton (h : c :: x <+: [c]) : c :: x = [c] :=
  h.eq_of_length (by simpa using h.length_le)

/-- A token that is cut short holds no delimiter. -/
theorem next_cut (h : c :: x <+: (next behind c rest).text)
    (hshort : c :: x ≠ (next behind c rest).text) : delimiter ∉ tokensFrom behind (c :: x) := by
  revert h hshort
  fun_cases next behind c rest with
  | case1 hmark =>
    intro h _
    have hnext := next_escape (endsInEscapeMark_iff.mp hmark) x
    have hx := escapeTail_of_isPrefix (List.cons_prefix_cons.mp h).2
    exact not_delimiter_of_next (by rw [hnext, hx]) (by simp [hnext, delimiter])
  | case2 hmark =>
    intro h _
    have hnext := next_plain (fun hm => hmark (endsInEscapeMark_iff.mpr hm)) x
    have hx := plainTail_of_isPrefix (List.cons_prefix_cons.mp h).2
    exact not_delimiter_of_next (by rw [hnext, hx]) (by simp [hnext, delimiter])
  | case3 =>
    intro h _
    have hx := quotedTail_of_isPrefix (List.cons_prefix_cons.mp h).2
    exact not_delimiter_of_next (by rw [next_quoted, hx]) (by simp [next_quoted, delimiter])
  | case4 tag htag =>
    intro h _
    obtain ⟨hopens, -⟩ := dollarTag?_eq_some_iff.mp htag
    obtain ⟨z, hz⟩ := h
    rcases List.append_eq_append_iff.mp hz with ⟨y, htag, -⟩ | ⟨y, hx, hbody⟩
    · exact not_delimiter_of_not_mem fun hmem =>
        hopens.semicolon_not_mem (htag ▸ List.mem_append_left y hmem)
    · have hnext := next_dollar hopens hx.symm
      have hy := dollarTail_of_isPrefix hopens.ne_nil ⟨z, hbody.symm⟩
      exact not_delimiter_of_next (by rw [hnext, hy, hx]) (by simp [hnext, delimiter])
  | case6 hrest =>
    intro h _
    obtain ⟨more, rfl⟩ := List.head?_eq_some_iff.mp hrest
    obtain ⟨-, h⟩ := List.cons_prefix_cons.mp h
    rw [List.takeWhile_cons_of_pos (by decide)] at h
    rcases List.prefix_cons_iff.mp h with rfl | ⟨y, rfl, hy⟩
    · exact not_delimiter_of_not_mem (by simp)
    · have hline : ∀ d ∈ y, (d != '\n') = true := fun d hd =>
        List.mem_takeWhile_imp (p := (· != '\n')) (hy.subset hd)
      have hx := List.takeWhile_eq_self_iff.mpr hline
      exact not_delimiter_of_next (by rw [next_line, hx]) (by simp [next_line, delimiter])
  | case8 =>
    intro h _
    obtain ⟨-, h⟩ := List.cons_prefix_cons.mp h
    rcases List.prefix_cons_iff.mp h with rfl | ⟨y, rfl, hy⟩
    · exact not_delimiter_of_not_mem (by simp)
    · have hx := blockTail_of_isPrefix hy
      exact not_delimiter_of_next (by rw [next_block, hx]) (by simp [next_block, delimiter])
  | case5 | case7 | case9 | case10 =>
    intro h hshort
    exact absurd (eq_of_isPrefix_singleton h) hshort

/-- The beginning of a token up to a place inside of it holds no delimiter, and the token is none. -/
theorem Reads.cut {y : List Char} (h : Reads behind t rest) (ht : t.text = u ++ y) (hu : u ≠ [])
    (hy : y ≠ []) : t ≠ delimiter ∧ delimiter ∉ tokensFrom behind u := by
  obtain ⟨c, x, rfl⟩ := List.exists_cons_of_ne_nil hu
  refine ⟨?_, ?_⟩
  · rintro rfl
    have hlen : 1 = (c :: x ++ y).length := congrArg List.length ht
    have hpos := List.length_pos_iff.mpr hy
    rw [List.length_append, List.length_cons] at hlen
    omega
  · obtain rfl : t = next behind c (x ++ (y ++ rest)) := h.eq_next (by simp [ht])
    have hcut : c :: x <+: (next behind c (x ++ (y ++ rest))).text := ⟨y, ht.symm⟩
    have hshort : c :: x ≠ (next behind c (x ++ (y ++ rest))).text := by
      rw [ht]
      simpa using hy
    exact next_cut hcut hshort

end CaretSql.Token
