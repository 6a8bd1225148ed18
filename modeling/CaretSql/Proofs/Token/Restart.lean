import CaretSql.Proofs.Token.Cut

/-! Lexing goes from left to right and begins afresh behind a delimiter. What is appended to a text
neither makes nor unmakes a delimiter in it; and where the text ends in one, the tokens of what is
appended are those that it has by itself. -/

namespace CaretSql

namespace Token

variable {offset o : Nat} {t : Token} {ts : List Token}

theorem splits_tokens (s : List Char) : Splits [] s (tokens s) := splits_tokensFrom [] s

theorem joined_tokens (s : List Char) : joined (tokens s) = s := (splits_tokens s).joined_eq

theorem place_shift (n offset : Nat) (ts : List Token) :
    place (n + offset) ts = (place offset ts).map fun (o, t) => (n + o, t) := by
  induction ts generalizing offset with
  | nil => rfl
  | cons t ts ih => rw [place, place, List.map_cons, Nat.add_assoc, ih]

theorem exists_before (h : (o, t) ∈ place offset ts) :
    ∃ before after, ts = before ++ t :: after ∧ o = offset + (joined before).length := by
  induction ts generalizing offset with
  | nil => cases h
  | cons u us ih =>
    rcases List.mem_cons.mp h with heq | hmem
    · obtain ⟨rfl, rfl⟩ := Prod.mk.inj heq
      exact ⟨[], us, rfl, rfl⟩
    · obtain ⟨before, after, rfl, rfl⟩ := ih hmem
      refine ⟨u :: before, after, rfl, ?_⟩
      rw [joined_cons, List.length_append, Nat.add_assoc]

end Token

namespace Lexemes

open Token

variable {offset bound d : Nat} {behind u v : List Char} {ts : List Token}

/-- the same lexemes `n` characters further on -/
def shift (n : Nat) (x : Lexemes) : Lexemes where
  delimiters := x.delimiters.map (n + ·)
  comments := x.comments.map fun (start, stop) => (n + start, n + stop)

theorem ofTokens_shift (n offset : Nat) (ts : List Token) :
    ofTokens (n + offset) ts = (ofTokens offset ts).shift n := by
  simp only [ofTokens, shift, place_shift, List.filter_map, List.map_map, Function.comp_def,
    Nat.add_assoc]

theorem ofTokens_append (offset : Nat) (ts us : List Token) :
    ofTokens offset (ts ++ us) =
      ofTokens offset ts ++ ofTokens (offset + (joined ts).length) us := by
  induction ts generalizing offset with
  | nil => rfl
  | cons t ts ih =>
    rw [List.cons_append, ofTokens_cons, ih, ofTokens_cons offset t ts, append_assoc, joined_cons,
      List.length_append, Nat.add_assoc]

theorem delimiters_append (x y : Lexemes) : (x ++ y).delimiters = x.delimiters ++ y.delimiters :=
  rfl

theorem delimiters_bounds (h : d ∈ (ofTokens offset ts).delimiters) :
    offset ≤ d ∧ d < offset + (joined ts).length :=
  place_bounds (mem_delimiters.mp h)

theorem filter_delimiters_eq_nil (h : bound ≤ offset) (ts : List Token) :
    (ofTokens offset ts).delimiters.filter (· < bound) = [] := by
  rw [List.filter_eq_nil_iff]
  intro d hd
  have := (delimiters_bounds hd).1
  rw [decide_eq_true_eq]
  omega

theorem filter_delimiters_eq_self (h : offset + (joined ts).length ≤ bound) :
    (ofTokens offset ts).delimiters.filter (· < bound) = (ofTokens offset ts).delimiters := by
  rw [List.filter_eq_self]
  intro d hd
  have := (delimiters_bounds hd).2
  rw [decide_eq_true_eq]
  omega

theorem filter_delimiters (h : Splits behind (u ++ v) ts) (offset : Nat) :
    (ofTokens offset ts).delimiters.filter (· < offset + u.length) =
      (ofTokens offset (tokensFrom behind u)).delimiters := by
  generalize hs : u ++ v = s at h
  induction h generalizing u offset with
  | nil =>
    obtain ⟨rfl, -⟩ := List.append_eq_nil_iff.mp hs
    rw [tokensFrom]
    rfl
  | @cons behind rest t more ht hmore ih =>
    have onward (w : List Char) (hu : u = t.text ++ w) (hrest : rest = w ++ v) :
        (ofTokens offset (t :: more)).delimiters.filter (· < offset + u.length) =
          (ofTokens offset (tokensFrom behind u)).delimiters := by
      subst hu hrest
      have hsplits := Splits.cons ht.take (splits_tokensFrom (t.text.reverse ++ behind) w)
      rw [← hsplits.eq_tokensFrom, ofTokens_cons, ofTokens_cons offset t (tokensFrom _ w),
        delimiters_append, delimiters_append, List.filter_append,
        filter_delimiters_eq_self (by simp), List.length_append, ← Nat.add_assoc, ih _ rfl]
    -- the seam lies behind this token, or inside of it, or ahead of it
    rcases List.append_eq_append_iff.mp hs with ⟨y, htext, -⟩ | ⟨w, hu, hrest⟩
    · by_cases hy : y = []
      · exact onward [] (by simpa [hy] using htext.symm) (by simpa [hy, htext] using hs.symm)
      by_cases hu : u = []
      · subst hu
        rw [tokensFrom]
        exact filter_delimiters_eq_nil (Nat.le_refl offset) (t :: more)
      · obtain ⟨hne, hnot⟩ := ht.cut htext hu hy
        rw [delimiters_eq_nil hnot, delimiters_cons_of_ne hne, filter_delimiters_eq_nil]
        rw [htext, List.length_append]
        omega
    · exact onward w hu hrest

/-- The delimiters in a text stay the same ones where the text goes on. -/
theorem filter_delimiters_append (u v : List Char) :
    (ofText (u ++ v)).delimiters.filter (· < u.length) = (ofText u).delimiters := by
  have h := filter_delimiters (splits_tokens (u ++ v)) 0
  rwa [Nat.zero_add, ← Lexer.ofText_eq_ofTokens, ← tokens, ← Lexer.ofText_eq_ofTokens] at h

end Lexemes

namespace Token

theorem tokens_append {u : List Char} (h : u.length - 1 ∈ (Lexemes.ofText u).delimiters)
    (v : List Char) : tokens (u ++ v) = tokens u ++ tokens v := by
  rw [← Lexemes.filter_delimiters_append u v, List.mem_filter, decide_eq_true_eq,
    Lexer.ofText_eq_ofTokens, Lexemes.mem_delimiters] at h
  obtain ⟨hmem, hpos⟩ := h
  obtain ⟨before, after, hts, hlen⟩ := exists_before hmem
  have hsplits := splits_tokens (u ++ v)
  rw [hts, ← List.singleton_append, ← List.append_assoc] at hsplits
  have hjoined := hsplits.joined_eq
  rw [joined_append] at hjoined
  have hu : (joined (before ++ [delimiter])).length = u.length := by
    simp [delimiter]
    omega
  obtain ⟨hu, hv⟩ := List.append_inj hjoined hu
  obtain ⟨hleft, hright⟩ := hsplits.append
  have hright := hright.of_alike ((fresh_behind_delimiter before []).alike fresh_nil)
  rw [hu] at hleft
  rw [hv] at hright
  calc tokens (u ++ v) = before ++ [delimiter] ++ after := by rw [hts]; simp
    _ = tokens u ++ tokens v := by rw [hleft.eq_tokensFrom, hright.eq_tokensFrom]; rfl

end Token

theorem Lexemes.ofText_append {u : List Char} (h : u.length - 1 ∈ (ofText u).delimiters)
    (v : List Char) : ofText (u ++ v) = ofText u ++ (ofText v).shift u.length := by
  rw [Lexer.ofText_eq_ofTokens, Token.tokens_append h, ofTokens_append, Token.joined_tokens,
    Nat.add_comm, ofTokens_shift, Lexer.ofText_eq_ofTokens, Lexer.ofText_eq_ofTokens]

/-- What is appended to a text changes nothing about the delimiters in it. If the text ends in a
delimiter, all that lexing reports behind it is what it reports of the appended text by itself. -/
theorem lexing_restarts (u v : List Char) :
    (Lexemes.ofText (u ++ v)).delimiters.filter (· < u.length) = (Lexemes.ofText u).delimiters ∧
      (u.length - 1 ∈ (Lexemes.ofText u).delimiters →
        (Lexemes.ofText (u ++ v)).delimiters = (Lexemes.ofText u).delimiters ++
            (Lexemes.ofText v).delimiters.map (u.length + ·) ∧
          (Lexemes.ofText (u ++ v)).comments = (Lexemes.ofText u).comments ++
            (Lexemes.ofText v).comments.map fun (start, stop) =>
              (u.length + start, u.length + stop)) := by
  refine ⟨Lexemes.filter_delimiters_append u v, ?_⟩
  intro h
  rw [Lexemes.ofText_append h]
  exact ⟨rfl, rfl⟩

/-- The E ahead of the semicolon does not make an escape literal of the quote behind it. -/
theorem lexing_restarts_behind_mark :
    5 ∈ (Lexemes.ofText ['-', '-', ';', '\n', 'E', ';']).delimiters ∧
      (Lexemes.ofText (['-', '-', ';', '\n', 'E', ';'] ++
        ['\'', '\\', '\'', ';', '/', '*'])).delimiters = [5, 9] ∧
      (Lexemes.ofText (['-', '-', ';', '\n', 'E', ';'] ++
        ['\'', '\\', '\'', ';', '/', '*'])).comments = [(0, 3), (10, 12)] := by
  have hleft : Lexemes.ofText ['-', '-', ';', '\n', 'E', ';'] = ⟨[5], [(0, 3)]⟩ := by
    decide +kernel
  have hright : Lexemes.ofText ['\'', '\\', '\'', ';', '/', '*'] = ⟨[3], [(4, 6)]⟩ := by
    decide +kernel
  have hmem : 5 ∈ (Lexemes.ofText ['-', '-', ';', '\n', 'E', ';']).delimiters := by
    rw [hleft]
    exact List.mem_singleton_self 5
  obtain ⟨hdelimiters, hcomments⟩ := (lexing_restarts ['-', '-', ';', '\n', 'E', ';']
    ['\'', '\\', '\'', ';', '/', '*']).2 hmem
  rw [hleft, hright] at hdelimiters hcomments
  exact ⟨hmem, hdelimiters, hcomments⟩

end CaretSql
