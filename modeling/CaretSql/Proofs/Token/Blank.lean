import CaretSql.Proofs.Character.Trim
import CaretSql.Proofs.Token.Seam

/-! Blanks around a text. Ahead of it they are tokens of their own; after it they are too, or the
end of a token that runs on to the end of the text and would end as well without them. -/

namespace CaretSql.Token

open Lexer

variable {behind after s w x y : List Char} {t : Token} {ts : List Token} {c : Char}

theorem isIdentifierChar_of_isBlank (h : Character.isBlank c = true) :
    isIdentifierChar c = false :=
  Character.of_isBlank (P := fun c => isIdentifierChar c = false) (by decide +kernel) h

theorem Single.of_isBlank (h : Character.isBlank c = true) : Single behind c after := by
  have hne {d : Char} (hd : Character.isBlank d = false) : c ≠ d := by
    rintro rfl
    rw [h] at hd
    cases hd
  exact ⟨hne rfl, hne rfl, fun hc => absurd hc (hne rfl), fun hc => absurd hc (hne rfl),
    fun hc => absurd hc (hne rfl)⟩

/-- Blanks ahead of a text are tokens of their own. -/
theorem Splits.drop_blanks (h : Splits behind (w ++ s) ts)
    (hw : ∀ c ∈ w, Character.isBlank c = true) :
    ∃ blanks us, ts = blanks ++ us ∧ joined blanks = w ∧ Splits (w.reverse ++ behind) s us := by
  induction w generalizing behind ts with
  | nil => exact ⟨[], ts, rfl, rfl, h⟩
  | cons c w ih =>
    generalize hs : c :: w ++ s = text at h
    cases h with
    | nil => cases hs
    | @cons _ rest t more ht hmore =>
      have hsingle : Reads behind ⟨.character, [c]⟩ (w ++ s) :=
        .character (.of_isBlank (hw c List.mem_cons_self))
      obtain rfl : t = ⟨.character, [c]⟩ := ht.unique hsingle hs.symm
      obtain rfl : w ++ s = rest := (List.cons.inj hs).2
      obtain ⟨blanks, us, rfl, rfl, hus⟩ := ih hmore fun d hd => hw d (List.mem_cons_of_mem c hd)
      exact ⟨⟨.character, [c]⟩ :: blanks, us, rfl, rfl, by simpa using hus⟩

theorem BlockBody.ends (h : BlockBody s) : ∃ inside, s = inside ++ ['/'] := by
  induction h with
  | close => exact ⟨['*'], rfl⟩
  | @other c _ _ _ _ ih =>
    obtain ⟨inside, rfl⟩ := ih
    exact ⟨c :: inside, rfl⟩
  | @nested s _ _ _ _ iht =>
    obtain ⟨inside, rfl⟩ := iht
    exact ⟨'/' :: '*' :: (s ++ inside), by simp⟩

theorem head?_append_ne {a : Char} (h : x.head? ≠ some a) (hy : a ∉ y) :
    (x ++ y).head? ≠ some a := by
  cases x with
  | nil => exact fun hhead => hy (List.mem_of_head? hhead)
  | cons d x => exact h

theorem PlainBody.cut (h : PlainBody (x ++ y)) (hy : '\'' ∉ y) (hne : y ≠ []) : PlainBody x := by
  rcases plainBody_cases x with hx | ⟨body, rest, rfl, hbody, hrest⟩
  · exact hx
  · have hclosed := plainTail_closed hbody (head?_append_ne hrest hy)
    have hopen := plainTail_open h
    rw [List.append_assoc, List.cons_append, hclosed] at hopen
    simp [hne] at hopen

theorem EscapeBody.cut (h : EscapeBody (x ++ y)) (hy : '\'' ∉ y) (hne : y ≠ []) :
    EscapeBody x ∨ ∃ body, x = body ++ ['\\'] ∧ EscapeBody body := by
  rcases escapeBody_cases x with hx | hx | ⟨body, rest, rfl, hbody, hrest⟩
  · exact Or.inl hx
  · exact Or.inr hx
  · have hclosed := escapeTail_closed hbody (head?_append_ne hrest hy)
    have hopen := escapeTail_open h
    rw [List.append_assoc, List.cons_append, hclosed] at hopen
    simp [hne] at hopen

theorem not_mem_of_isBlank (hy : ∀ c ∈ y, Character.isBlank c = true)
    (hc : Character.isBlank c = false) : c ∉ y := by
  intro hmem
  rw [hy c hmem] at hc
  cases hc

theorem eq_nil_or_mem (h : x ++ y = s ++ [c]) : y = [] ∨ c ∈ y := by
  have hlast : (x ++ y).getLast? = some c := by rw [h, List.getLast?_concat]
  rw [List.getLast?_append, Option.or_eq_some_iff] at hlast
  rcases hlast with hlast | ⟨hnone, -⟩
  · exact Or.inr (List.mem_of_getLast? hlast)
  · exact Or.inl (List.getLast?_eq_none_iff.mp hnone)

/-- A token that ends in blanks is still open where they begin, so it ends there as well. -/
theorem Reads.cut_blanks (h : Reads behind t after) (ht : t.text = x ++ y) (hx : x ≠ [])
    (hy : ∀ c ∈ y, Character.isBlank c = true) (hne : y ≠ []) :
    t.kind ≠ .character ∧ Reads behind ⟨t.kind, x⟩ [] := by
  have last {c : Char} (hc : Character.isBlank c = false) (inside : List Char) :
      t.text ≠ inside ++ [c] := by
    intro heq
    rcases eq_nil_or_mem (ht.symm.trans heq) with hnil | hmem
    · exact hne hnil
    · exact not_mem_of_isBlank hy hc hmem
  have first {d : Char} {text : List Char} (heq : d :: text = x ++ y) :
      ∃ more, x = d :: more ∧ text = more ++ y := by
    rcases List.cons_eq_append_iff.mp heq with ⟨hnil, -⟩ | hmore
    · exact absurd hnil hx
    · exact hmore
  cases h with
  | plain | escape | escapeCut | quoted => exact absurd rfl (last rfl (_ :: _))
  | @dollar _ body _ htag =>
    obtain ⟨name, rfl, -⟩ := htag.name
    exact absurd (by simp) (last (c := '$') rfl ('$' :: (name ++ '$' :: (body ++ '$' :: name))))
  | block hbody =>
    obtain ⟨inside, rfl⟩ := hbody.ends
    exact absurd rfl (last rfl ('/' :: '*' :: inside))
  | character =>
    have hlen := congrArg List.length ht
    have hxlen := List.length_pos_iff.mpr hx
    have hylen := List.length_pos_iff.mpr hne
    rw [List.length_append] at hlen
    exact absurd hlen (by simp; omega)
  | plainOpen hmark hbody =>
    obtain ⟨more, rfl, rfl⟩ := first ht
    exact ⟨by simp, .plainOpen hmark (hbody.cut (not_mem_of_isBlank hy rfl) hne)⟩
  | escapeOpen hmark hbody =>
    obtain ⟨more, rfl, rfl⟩ := first ht
    refine ⟨by simp, ?_⟩
    rcases hbody.cut (not_mem_of_isBlank hy rfl) hne with hmore | ⟨body, rfl, hmore⟩
    · exact .escapeOpen hmark hmore
    · exact .escapeCut hmark hmore
  | quotedOpen hbody =>
    obtain ⟨more, rfl, rfl⟩ := first ht
    exact ⟨by simp, .quotedOpen fun hmem => hbody (List.mem_append_left y hmem)⟩
  | @dollarOpen tag body htag hnone =>
    have hsplit : ∃ more, x = tag ++ more ∧ body = more ++ y := by
      rcases List.append_eq_append_iff.mp ht with hmore | ⟨cut, hcut, rfl⟩
      · exact hmore
      · obtain ⟨name, rfl, -⟩ := htag.name
        rcases eq_nil_or_mem (s := '$' :: name) hcut.symm with rfl | hmem
        · exact ⟨[], by simpa using hcut.symm, rfl⟩
        · exact absurd (List.mem_append_left body hmem) (not_mem_of_isBlank hy rfl)
    obtain ⟨more, rfl, rfl⟩ := hsplit
    exact ⟨by simp, .dollarOpen htag fun hmem => hnone (hmem.trans (List.infix_append' [] more y))⟩
  | line hbody hrest =>
    obtain ⟨rest, rfl, hrest⟩ := first ht
    rcases List.cons_eq_append_iff.mp hrest with ⟨rfl, rfl⟩ | ⟨more, rfl, rfl⟩
    · exact absurd List.mem_cons_self (not_mem_of_isBlank hy rfl)
    · exact ⟨by simp, .line (fun hmem => hbody (List.mem_append_left y hmem)) (Or.inl rfl)⟩
  | blockOpen hnone =>
    obtain ⟨rest, rfl, hrest⟩ := first ht
    rcases List.cons_eq_append_iff.mp hrest with ⟨rfl, rfl⟩ | ⟨more, rfl, rfl⟩
    · exact absurd List.mem_cons_self (not_mem_of_isBlank hy rfl)
    · exact ⟨by simp, .blockOpen fun s hs => hnone s (hs.trans (List.prefix_append more y))⟩

/-- Outside of comments the tokens hold a character that is not blank. -/
def HoldsCode (ts : List Token) : Prop :=
  ∃ t ∈ ts, t.isComment = false ∧ ∃ c ∈ t.text, Character.isBlank c = false

theorem HoldsCode.exists_mem (h : HoldsCode ts) : ∃ c ∈ joined ts, Character.isBlank c = false := by
  obtain ⟨t, ht, -, c, hc, hb⟩ := h
  exact ⟨c, List.mem_flatten.mpr ⟨t.text, List.mem_map_of_mem ht, hc⟩, hb⟩

theorem not_holdsCode (h : ∀ c ∈ joined ts, Character.isBlank c = true) : ¬ HoldsCode ts := by
  intro hcode
  obtain ⟨c, hc, hb⟩ := hcode.exists_mem
  exact not_mem_of_isBlank h hb hc

theorem holdsCode_cons : HoldsCode (t :: ts) ↔
    (t.isComment = false ∧ ∃ c ∈ t.text, Character.isBlank c = false) ∨ HoldsCode ts := by
  simp [HoldsCode]

theorem holdsCode_append {us : List Token} :
    HoldsCode (ts ++ us) ↔ HoldsCode ts ∨ HoldsCode us := by
  simp [HoldsCode, or_and_right, exists_or]

/-- Without the blanks at its end a text has tokens of the same sorts. -/
theorem Splits.cut_blanks (h : Splits behind (s ++ w) ts)
    (hw : ∀ c ∈ w, Character.isBlank c = true) :
    ∃ us, Splits behind s us ∧ (delimiter ∉ ts → delimiter ∉ us) ∧
      (HoldsCode ts → HoldsCode us) := by
  generalize htext : s ++ w = text at h
  induction h generalizing s with
  | nil =>
    obtain ⟨rfl, rfl⟩ := List.append_eq_nil_iff.mp htext
    exact ⟨[], .nil, id, id⟩
  | @cons behind rest t more ht hmore ih =>
    have onward (s' : List Char) (hs : s = t.text ++ s') (hrest : s' ++ w = rest) :
        ∃ us, Splits behind s us ∧ (delimiter ∉ t :: more → delimiter ∉ us) ∧
          (HoldsCode (t :: more) → HoldsCode us) := by
      subst hs
      obtain ⟨us, hus, hdelimiter, hcode⟩ := ih hrest
      rw [← hrest] at ht
      refine ⟨t :: us, .cons ht.take hus, ?_, ?_⟩
      · intro hnot
        rw [List.mem_cons, not_or] at hnot ⊢
        exact ⟨hnot.1, hdelimiter hnot.2⟩
      · rw [holdsCode_cons, holdsCode_cons]
        exact Or.imp_right hcode
    -- either the blanks begin after this token, or all that is left is blank and they may begin
    -- inside of it
    rcases List.append_eq_append_iff.mp htext.symm with ⟨s', hs, hrest⟩ | ⟨y, hy, rfl⟩
    · exact onward s' hs hrest.symm
    by_cases hnil : y = []
    · subst hnil
      exact onward [] (by simpa using hy.symm) rfl
    have hrest : ¬ HoldsCode more := by
      apply not_holdsCode
      rw [hmore.joined_eq]
      exact fun c hc => hw c (List.mem_append_right y hc)
    by_cases hs : s = []
    · subst hs
      refine ⟨[], .nil, fun _ => List.not_mem_nil, fun hcode => absurd hcode (not_holdsCode ?_)⟩
      rw [joined_cons, hmore.joined_eq, hy]
      exact hw
    · have hblank : ∀ c ∈ y, Character.isBlank c = true := fun c hc =>
        hw c (List.mem_append_left rest hc)
      obtain ⟨hkind, hcut⟩ := ht.cut_blanks hy hs hblank hnil
      refine ⟨[⟨t.kind, s⟩], by simpa using Splits.cons hcut .nil, ?_, ?_⟩
      · rintro - hmem
        rw [List.mem_singleton] at hmem
        exact hkind (congrArg Token.kind hmem).symm
      · rw [holdsCode_cons, holdsCode_cons]
        rintro (⟨hcomment, c, hc, hb⟩ | hcode)
        · rw [hy, List.mem_append] at hc
          refine Or.inl ⟨hcomment, c, hc.resolve_right (not_mem_of_isBlank hblank hb), hb⟩
        · exact absurd hcode hrest

theorem Fresh.of_isBlank (hw : ∀ c ∈ w, Character.isBlank c = true) (h : Fresh behind) :
    Fresh (w ++ behind) := by
  cases w with
  | nil => exact h
  | cons c w =>
    rintro _ ⟨⟩
    exact isIdentifierChar_of_isBlank (hw c List.mem_cons_self)

/-- Trimmed, a text has tokens of the same sorts. -/
theorem Splits.trim (h : Splits behind s ts) (hfresh : Fresh behind) (hcode : HoldsCode ts) :
    ∃ us, Splits [] (Character.trim s) us ∧ (delimiter ∉ ts → delimiter ∉ us) ∧ HoldsCode us := by
  have hlive := hcode.exists_mem
  rw [h.joined_eq] at hlive
  rw [Character.trim_split hlive, List.append_assoc] at h
  have hlead : ∀ c ∈ s.takeWhile Character.isBlank, Character.isBlank c = true :=
    fun c hc => List.mem_takeWhile_imp hc
  have htrail : ∀ c ∈ (s.reverse.takeWhile Character.isBlank).reverse,
      Character.isBlank c = true :=
    fun c hc => List.mem_takeWhile_imp (List.mem_reverse.mp hc)
  obtain ⟨blanks, ts, rfl, hblanks, hrest⟩ := h.drop_blanks hlead
  have hbehind : Fresh ((s.takeWhile Character.isBlank).reverse ++ behind) :=
    hfresh.of_isBlank fun c hc => hlead c (List.mem_reverse.mp hc)
  have halike : Alike ((s.takeWhile Character.isBlank).reverse ++ behind) [] :=
    hbehind.alike fresh_nil
  obtain ⟨us, hus, hdelimiter, hkeep⟩ := (hrest.of_alike halike).cut_blanks htrail
  refine ⟨us, hus, fun hnot => hdelimiter fun hmem => hnot (List.mem_append_right _ hmem), ?_⟩
  rw [← hblanks] at hlead
  exact hkeep ((holdsCode_append.mp hcode).resolve_left (not_holdsCode hlead))

end CaretSql.Token
