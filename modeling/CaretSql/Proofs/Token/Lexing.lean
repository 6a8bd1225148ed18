import CaretSql.Proofs.Token.Scan

/-! Lexing reads the grammar of tokens. A text falls into tokens in one way, and what lexing
reports of it are the delimiters and the comments among them. -/

namespace CaretSql

namespace Token

variable {behind s : List Char} {ts : List Token}

theorem Splits.joined_eq (h : Splits behind s ts) : joined ts = s := by
  induction h with
  | nil => rfl
  | cons _ _ ih => rw [joined_cons, ih]

theorem Splits.mem_ne_nil (h : Splits behind s ts) : ∀ t ∈ ts, t.text ≠ [] := by
  induction h with
  | nil =>
    intro t ht
    cases ht
  | cons hu _ ih =>
    intro t ht
    rcases List.mem_cons.mp ht with rfl | hmem
    · exact hu.ne_nil
    · exact ih t hmem

end Token

open Token in
/-- Every text splits into tokens of the grammar in exactly one way. Lexing reports the offsets of
the delimiters and the spans of the comments among these tokens, ascending: the delimiters are
semicolons of the text, and the spans hold something, lie in the text and apart from each other
and from the delimiters. -/
theorem lexing_reads_grammar (s : List Char) :
    ∃ ts, (∀ us, Splits [] s us ↔ us = ts) ∧
      (Lexemes.ofText s).delimiters = ((place 0 ts).filter (·.2 = .delimiter)).map (·.1) ∧
      (Lexemes.ofText s).comments = ((place 0 ts).filter (·.2.isComment)).map
        (fun (o, t) => (o, o + t.text.length)) ∧
      (Lexemes.ofText s).delimiters.Pairwise (· < ·) ∧
      (∀ d ∈ (Lexemes.ofText s).delimiters, s[d]? = some ';' ∧
        (Lexemes.ofText s).inComment d = false) ∧
      (Lexemes.ofText s).comments.Pairwise (fun a b => a.2 ≤ b.1) ∧
      ∀ span ∈ (Lexemes.ofText s).comments, span.1 < span.2 ∧ span.2 ≤ s.length := by
  have hsplits : Splits [] s (tokens s) := splits_tokensFrom [] s
  have hjoined := hsplits.joined_eq
  rw [Lexer.ofText_eq_ofTokens]
  refine ⟨tokens s, fun us => splits_iff, rfl, rfl, Lexemes.delimiters_sorted 0 _, ?_,
    Lexemes.comments_sorted 0 _, ?_⟩
  · intro d hd
    refine ⟨?_, Lexemes.inComment_of_mem_delimiters hd⟩
    have hget := Lexemes.getElem?_of_mem_delimiters hd
    rwa [hjoined] at hget
  · rintro ⟨start, stop⟩ hspan
    obtain ⟨t, -, hmem, rfl⟩ := Lexemes.mem_comments.mp hspan
    have hpos := List.length_pos_iff.mpr (hsplits.mem_ne_nil t (mem_of_mem_place hmem))
    have hbounds := (place_bounds hmem).2
    rw [hjoined] at hbounds
    exact ⟨by omega, by omega⟩

/-- The star that opens a comment does not close it with the slash that follows. -/
example : Lexemes.ofText ['/', '*', '/', ';', '*', '/', ';'] = ⟨[6], [(0, 6)]⟩ := by
  decide +kernel

end CaretSql
