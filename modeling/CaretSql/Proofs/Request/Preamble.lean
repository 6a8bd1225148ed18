import CaretSql.Proofs.Request.Statement
import CaretSql.Proofs.Token.Restart

/-! Blanks and comments ahead of a statement. If all the comments among them are closed, lexing has
come back to where it began when it passes them, so the statement behind them is the one that it is
by itself. -/

namespace CaretSql

namespace Token

variable {behind after s q x : List Char} {t : Token} {ts us : List Token}

/-- The token holds no code: it is a comment or a blank. -/
inductive Silent : Token → Prop
  | comment {t : Token} (h : t.isComment = true) : Silent t
  | blank {c : Char} (h : Character.isBlank c = true) : Silent ⟨.character, [c]⟩

theorem Reads.silent (h : Reads behind t after)
    (hblank : t.isComment = false → ∀ c ∈ t.text, Character.isBlank c = true) : Silent t := by
  have first {c : Char} {text : List Char} (hc : Character.isBlank c = false)
      (htext : t.text = c :: text) (hcomment : t.isComment = false) : Silent t := by
    have := hblank hcomment c (htext ▸ List.mem_cons_self)
    rw [hc] at this
    cases this
  cases h with
  | line | block | blockOpen => exact .comment rfl
  | character => exact .blank (hblank rfl _ List.mem_cons_self)
  | plain | plainOpen | escape | escapeOpen | escapeCut | quoted | quotedOpen =>
    exact first rfl rfl rfl
  | dollar htag =>
    obtain ⟨name, rfl, -⟩ := htag.name
    exact first rfl rfl rfl
  | dollarOpen htag =>
    obtain ⟨name, rfl, -⟩ := htag.name
    exact first rfl rfl rfl

/-- A text that holds no code has silent tokens only. -/
theorem Splits.silent (h : Splits behind s ts) (hcode : ¬ HoldsCode ts) : ∀ t ∈ ts, Silent t := by
  induction h with
  | nil => exact fun _ hmem => absurd hmem List.not_mem_nil
  | @cons behind rest t more ht hmore ih =>
    rw [holdsCode_cons, not_or] at hcode
    intro u hu
    rcases List.mem_cons.mp hu with rfl | hmem
    · refine ht.silent fun hcomment c hc => ?_
      by_contra hb
      exact hcode.1 ⟨hcomment, c, hc, by simpa using hb⟩
    · exact ih hcode.2 u hmem

/-- What comes first in it besides blanks opens a comment. -/
theorem Splits.head?_trimStart (h : Splits behind s ts) (hsilent : ∀ t ∈ ts, Silent t) :
    ∀ c ∈ (Character.trimStart s).head?, c = '-' ∨ c = '/' := by
  induction h with
  | nil => exact fun _ hc => nomatch hc
  | @cons behind rest t more ht hmore ih =>
    have opens {c : Char} {text : List Char} (hc : Character.isBlank c = false)
        (hmem : c = '-' ∨ c = '/') :
        ∀ d ∈ (Character.trimStart (c :: text)).head?, d = '-' ∨ d = '/' := by
      rw [Character.trimStart, List.dropWhile_cons_of_neg (by simp [hc])]
      rintro _ ⟨⟩
      exact hmem
    cases hsilent t List.mem_cons_self with
    | comment hcomment =>
      cases ht with
      | line => exact opens rfl (Or.inl rfl)
      | block | blockOpen => exact opens rfl (Or.inr rfl)
      | _ => cases hcomment
    | @blank c hblank =>
      have hdrop : Character.trimStart ([c] ++ rest) = Character.trimStart rest :=
        List.dropWhile_cons_of_pos hblank
      rw [hdrop]
      exact ih fun u hu => hsilent u (List.mem_cons_of_mem _ hu)

/-- A silent token that a delimiter could stand behind ends where it ends, whatever follows. -/
theorem Reads.of_delimiter (h : Reads behind t (x ++ [';'])) (hsilent : Silent t) :
    Reads behind t (x ++ q) := by
  cases hsilent with
  | blank hblank => exact .character (.of_isBlank hblank)
  | comment hcomment =>
    generalize hafter : x ++ [';'] = after at h
    cases h with
    | line hbody hrest =>
      refine .line hbody (Or.inr ?_)
      subst hafter
      have hhead := hrest.resolve_left (by simp)
      cases x with
      | nil => cases hhead
      | cons d x => exact hhead
    | block hbody => exact .block hbody
    | blockOpen => exact absurd hafter (by simp)
    | _ => cases hcomment

theorem Splits.append_silent (h : Splits behind (joined ts ++ [';']) (ts ++ us))
    (hsilent : ∀ t ∈ ts, Silent t) {vs : List Token}
    (hq : Splits ((joined ts).reverse ++ behind) q vs) :
    Splits behind (joined ts ++ q) (ts ++ vs) := by
  induction ts generalizing behind with
  | nil => exact hq
  | cons t ts ih =>
    generalize hs : joined (t :: ts) ++ [';'] = s at h
    cases h with
    | @cons _ rest _ _ ht hmore =>
      obtain rfl : joined ts ++ [';'] = rest := by
        rw [joined_cons, List.append_assoc] at hs
        exact List.append_cancel_left hs
      rw [joined_cons, List.reverse_append, List.append_assoc] at hq
      rw [joined_cons, List.append_assoc]
      exact .cons (ht.of_delimiter (hsilent t List.mem_cons_self))
        (ih hmore (fun u hu => hsilent u (List.mem_cons_of_mem t hu)) hq)

theorem Splits.reads (h : Splits behind s (ts ++ t :: us)) :
    Reads ((joined ts).reverse ++ behind) t (joined us) := by
  have hright := h.append.2
  generalize hs : joined (t :: us) = text at hright
  cases hright with
  | @cons _ rest _ _ ht _ =>
    rw [joined_cons] at hs
    rwa [List.append_cancel_left hs]

/-- Behind silent tokens that a delimiter could stand behind, no identifier ends. -/
theorem Splits.fresh_behind_silent (h : Splits behind (joined ts ++ [';']) (ts ++ us))
    (hsilent : ∀ t ∈ ts, Silent t) (hfresh : Fresh behind) :
    Fresh ((joined ts).reverse ++ behind) := by
  rcases List.eq_nil_or_concat ts with rfl | ⟨more, t, hts⟩
  · exact hfresh
  rw [List.concat_eq_append] at hts
  subst hts
  have hafter : joined us = [';'] := by
    have hwhole := h.joined_eq
    rw [joined_append] at hwhole
    exact List.append_cancel_left hwhole
  rw [List.append_assoc, List.singleton_append] at h
  have hlast := h.reads
  rw [hafter] at hlast
  rw [joined_append, joined_cons, joined_nil, List.append_nil, List.reverse_append,
    List.append_assoc]
  cases hsilent t (List.mem_append_right more (List.mem_singleton_self t)) with
  | blank hblank =>
    rintro _ ⟨⟩
    exact isIdentifierChar_of_isBlank hblank
  | comment hcomment =>
    cases hlast with
    | line _ hrest => exact absurd hrest (by decide)
    | block hbody =>
      obtain ⟨inside, rfl⟩ := hbody.ends
      intro d hd
      obtain rfl : '/' = d := by simpa using hd
      decide
    | _ => cases hcomment

end Token

open Token

/-- Blanks and comments, as lexing reports them, and none of the comments is still open: a delimiter
behind the text would be seen. -/
structure Preamble (s : List Char) : Prop where
  covered : ∀ x ∈ s.zipIdx, Character.isBlank x.1 = true ∨ (Lexemes.ofText s).inComment x.2 = true
  closed : s.length ∈ (Lexemes.ofText (s ++ [';'])).delimiters

namespace Preamble

variable {s : List Char}

instance (s : List Char) : Decidable (Preamble s) :=
  decidable_of_iff
    ((∀ x ∈ s.zipIdx,
        Character.isBlank x.1 = true ∨ (Lexemes.ofText s).inComment x.2 = true) ∧
      s.length ∈ (Lexemes.ofText (s ++ [';'])).delimiters)
    ⟨fun h => ⟨h.1, h.2⟩, fun h => ⟨h.1, h.2⟩⟩

theorem not_holdsCode {ts : List Token} (h : Preamble s) (hs : Splits [] s ts) :
    ¬ HoldsCode ts := by
  have hjoined := hs.joined_eq
  have hwhole : Document.chars ⟨s⟩ = joined ([] ++ ts ++ []) := by simp [hjoined]
  have hlexemes : Lexemes.ofText s = Lexemes.ofTokens 0 ts := by
    rw [Lexer.ofText_eq_ofTokens, tokens, ← splits_iff.mp hs]
  intro hcode
  obtain ⟨i, c, hget, hb, hin⟩ := (Request.live_iff_holdsCode hwhole).mpr hcode
  rw [joined_nil, List.length_nil, Nat.zero_add, hjoined, Document.slice_all] at hget
  rw [List.nil_append, List.append_nil, ← hlexemes, joined_nil, List.length_nil,
    Nat.zero_add] at hin
  rcases h.covered (c, i) (List.mk_mem_zipIdx_iff_getElem?.mpr hget) with hblank | hcomment
  · exact absurd hblank (by simp [hb])
  · exact absurd hcomment (by simp [hin])

/-- The tokens of a preamble are silent, and a delimiter behind it is a token of its own. -/
theorem exists_silent (h : Preamble s) :
    ∃ ts us, Splits [] (s ++ [';']) (ts ++ us) ∧ joined ts = s ∧ Splits [] s ts ∧
      ∀ t ∈ ts, Silent t := by
  have hmem := h.closed
  rw [Lexer.ofText_eq_ofTokens, Lexemes.mem_delimiters] at hmem
  obtain ⟨ts, after, hts, hlen⟩ := exists_before hmem
  have hsplits := splits_tokens (s ++ [';'])
  rw [hts] at hsplits
  have hjoined := hsplits.joined_eq
  rw [joined_append] at hjoined
  rw [Nat.zero_add] at hlen
  obtain ⟨hs, -⟩ := List.append_inj hjoined hlen.symm
  have hleft := hsplits.append.1
  rw [hs] at hleft
  exact ⟨ts, _, hsplits, hs, hleft, hleft.silent (h.not_holdsCode hleft)⟩

/-- Behind a preamble lexing begins afresh. -/
theorem ofText_append (h : Preamble s) (q : List Char) :
    Lexemes.ofText (s ++ q) = Lexemes.ofText s ++ (Lexemes.ofText q).shift s.length := by
  obtain ⟨ts, us, hsplits, rfl, hleft, hsilent⟩ := h.exists_silent
  have hfresh := hsplits.fresh_behind_silent hsilent fresh_nil
  have hright := (splits_tokens q).of_alike (fresh_nil.alike hfresh)
  have hwhole := hsplits.append_silent hsilent hright
  have htokens : tokens (joined ts ++ q) = ts ++ tokens q := hwhole.eq_tokensFrom.symm
  have hpreamble : tokens (joined ts) = ts := hleft.eq_tokensFrom.symm
  rw [Lexer.ofText_eq_ofTokens, htokens, Lexemes.ofTokens_append, Nat.add_comm,
    Lexemes.ofTokens_shift, Lexer.ofText_eq_ofTokens, hpreamble, Lexer.ofText_eq_ofTokens]

theorem head?_trimStart (h : Preamble s) :
    ∀ c ∈ (Character.trimStart s).head?, c = '-' ∨ c = '/' := by
  obtain ⟨ts, -, -, -, hleft, hsilent⟩ := h.exists_silent
  exact hleft.head?_trimStart hsilent

end Preamble

end CaretSql
