import CaretSql.Proofs.Token.Lexing

/-! Tokens on either side of a seam. A token does not depend on what follows it, and on the text
behind it only by the last two characters, so the tokens of a text fall apart where it is cut
between tokens. -/

namespace CaretSql.Token

open Lexer

variable {behind behind' after s u v w : List Char} {t : Token} {ts us : List Token} {c : Char}

theorem Reads.take (h : Reads behind t (u ++ v)) : Reads behind t u := by
  have head {a : Char} (ha : (u ++ v).head? ≠ some a) : u.head? ≠ some a := by
    intro hu
    rw [List.head?_append, hu] at ha
    exact ha rfl
  generalize hs : u ++ v = s at h
  cases h with
  | plain hmark hbody hrest => exact .plain hmark hbody (head (hs ▸ hrest))
  | escape hmark hbody hrest => exact .escape hmark hbody (head (hs ▸ hrest))
  | quoted hbody => exact .quoted hbody
  | dollar htag hfirst => exact .dollar htag hfirst
  | line hbody hrest =>
    refine .line hbody ?_
    cases u with
    | nil => exact Or.inl rfl
    | cons d u =>
      subst hs
      exact Or.inr (hrest.resolve_left (List.cons_ne_nil _ _))
  | block hbody => exact .block hbody
  | character hsingle =>
    subst hs
    refine .character ⟨hsingle.quote, hsingle.doubleQuote, ?_, ?_, ?_⟩
    · exact fun hc tag htag hp => hsingle.dollar hc tag htag
        (hp.trans (List.prefix_append (_ :: u) v))
    · exact fun hc => head (hsingle.line hc)
    · exact fun hc => head (hsingle.block hc)
  | plainOpen hmark hbody =>
    obtain ⟨rfl, rfl⟩ := List.append_eq_nil_iff.mp hs
    exact .plainOpen hmark hbody
  | escapeOpen hmark hbody =>
    obtain ⟨rfl, rfl⟩ := List.append_eq_nil_iff.mp hs
    exact .escapeOpen hmark hbody
  | escapeCut hmark hbody =>
    obtain ⟨rfl, rfl⟩ := List.append_eq_nil_iff.mp hs
    exact .escapeCut hmark hbody
  | quotedOpen hbody =>
    obtain ⟨rfl, rfl⟩ := List.append_eq_nil_iff.mp hs
    exact .quotedOpen hbody
  | dollarOpen htag hnone =>
    obtain ⟨rfl, rfl⟩ := List.append_eq_nil_iff.mp hs
    exact .dollarOpen htag hnone
  | blockOpen hnone =>
    obtain ⟨rfl, rfl⟩ := List.append_eq_nil_iff.mp hs
    exact .blockOpen hnone

/-- Two texts end alike as far as a token after them can tell. -/
structure Alike (behind behind' : List Char) : Prop where
  fresh : Fresh behind ↔ Fresh behind'
  mark : EscapeMark behind ↔ EscapeMark behind'

theorem escapeMark_cons : EscapeMark (c :: s) ↔ (c = 'E' ∨ c = 'e') ∧ Fresh s := by
  constructor
  · rintro ⟨_, _, ⟨⟩, hc, hfresh⟩
    exact ⟨hc, hfresh⟩
  · rintro ⟨hc, hfresh⟩
    exact ⟨c, s, rfl, hc, hfresh⟩

theorem Alike.cons (h : Alike behind behind') (c : Char) : Alike (c :: behind) (c :: behind') :=
  ⟨Iff.rfl, by rw [escapeMark_cons, escapeMark_cons, h.fresh]⟩

theorem Alike.append (h : Alike behind behind') (s : List Char) :
    Alike (s ++ behind) (s ++ behind') := by
  induction s with
  | nil => exact h
  | cons c s ih => exact ih.cons c

/-- An identifier does not begin or end at an E, so a text that ends outside of one ends alike
with every other such text. -/
theorem Fresh.not_escapeMark (h : Fresh behind) : ¬ EscapeMark behind := by
  rintro ⟨e, more, rfl, rfl | rfl, -⟩
  · exact absurd (h 'E' rfl) (by decide)
  · exact absurd (h 'e' rfl) (by decide)

theorem Fresh.alike (h : Fresh behind) (h' : Fresh behind') : Alike behind behind' :=
  ⟨iff_of_true h h', iff_of_false h.not_escapeMark h'.not_escapeMark⟩

@[simp]
theorem fresh_nil : Fresh [] := by simp [Fresh]

theorem fresh_behind_delimiter (ts : List Token) (behind : List Char) :
    Fresh ((joined (ts ++ [delimiter])).reverse ++ behind) := by
  rw [joined_append, List.reverse_append]
  rintro _ ⟨⟩
  decide

theorem OpensTag.of_alike {tag : List Char} (h : OpensTag behind tag)
    (halike : Alike behind behind') : OpensTag behind' tag :=
  ⟨h.name, halike.fresh.mp h.fresh⟩

theorem Alike.symm (h : Alike behind behind') : Alike behind' behind := ⟨h.fresh.symm, h.mark.symm⟩

theorem Reads.of_alike (h : Reads behind t after) (halike : Alike behind behind') :
    Reads behind' t after := by
  have hmark := halike.mark
  cases h with
  | plain hnot hbody hrest => exact .plain (hmark.not.mp hnot) hbody hrest
  | plainOpen hnot hbody => exact .plainOpen (hmark.not.mp hnot) hbody
  | escape hmarked hbody hrest => exact .escape (hmark.mp hmarked) hbody hrest
  | escapeOpen hmarked hbody => exact .escapeOpen (hmark.mp hmarked) hbody
  | escapeCut hmarked hbody => exact .escapeCut (hmark.mp hmarked) hbody
  | quoted hbody => exact .quoted hbody
  | quotedOpen hbody => exact .quotedOpen hbody
  | dollar htag hfirst => exact .dollar (htag.of_alike halike) hfirst
  | dollarOpen htag hnone => exact .dollarOpen (htag.of_alike halike) hnone
  | line hbody hrest => exact .line hbody hrest
  | block hbody => exact .block hbody
  | blockOpen hnone => exact .blockOpen hnone
  | character hsingle =>
    exact .character ⟨hsingle.quote, hsingle.doubleQuote,
      fun hc tag htag => hsingle.dollar hc tag (htag.of_alike halike.symm),
      hsingle.line, hsingle.block⟩

theorem Splits.of_alike (h : Splits behind s ts) (halike : Alike behind behind') :
    Splits behind' s ts := by
  induction h generalizing behind' with
  | nil => exact .nil
  | cons ht _ ih => exact .cons (ht.of_alike halike) (ih (halike.append _))

theorem Splits.append (h : Splits behind s (ts ++ us)) :
    Splits behind (joined ts) ts ∧ Splits ((joined ts).reverse ++ behind) (joined us) us := by
  induction ts generalizing behind s with
  | nil =>
    have hjoined : joined us = s := h.joined_eq
    exact ⟨.nil, hjoined ▸ h⟩
  | cons t ts ih =>
    rw [List.cons_append] at h
    cases h with
    | @cons _ rest _ _ ht hmore =>
      obtain ⟨hleft, hright⟩ := ih hmore
      have hrest : joined ts ++ joined us = rest := by rw [← joined_append, hmore.joined_eq]
      rw [← hrest] at ht
      refine ⟨.cons ht.take hleft, ?_⟩
      rwa [joined_cons, List.reverse_append, List.append_assoc]

end CaretSql.Token
