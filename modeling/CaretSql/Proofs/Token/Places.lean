import CaretSql.Token

/-! The lexemes that tokens show. Token by token they are put together from left to right; the
delimiters ascend, and the comments lie apart from each other and from the delimiters. -/

namespace CaretSql

namespace Token

def joined (ts : List Token) : List Char := (ts.map (·.text)).flatten

@[simp]
theorem joined_nil : joined [] = [] := rfl

@[simp]
theorem joined_cons (t : Token) (ts : List Token) : joined (t :: ts) = t.text ++ joined ts := rfl

@[simp]
theorem joined_append (ts us : List Token) : joined (ts ++ us) = joined ts ++ joined us := by
  simp [joined]

variable {offset : Nat} {t : Token} {ts : List Token} {o : Nat}

theorem place_bounds (h : (o, t) ∈ place offset ts) :
    offset ≤ o ∧ o + t.text.length ≤ offset + (joined ts).length := by
  induction ts generalizing offset with
  | nil => cases h
  | cons u us ih =>
    rw [joined_cons, List.length_append]
    rcases List.mem_cons.mp h with heq | hmem
    · obtain ⟨rfl, rfl⟩ := Prod.mk.inj heq
      omega
    · have := ih hmem
      omega

theorem mem_of_mem_place {offset o : Nat} {t : Token} (h : (o, t) ∈ place offset ts) : t ∈ ts := by
  induction ts generalizing offset with
  | nil => cases h
  | cons u us ih =>
    rcases List.mem_cons.mp h with heq | hmem
    · obtain ⟨-, rfl⟩ := Prod.mk.inj heq
      exact List.mem_cons_self
    · exact List.mem_cons_of_mem u (ih hmem)

theorem place_append (offset : Nat) (ts us : List Token) :
    place offset (ts ++ us) = place offset ts ++ place (offset + (joined ts).length) us := by
  induction ts generalizing offset with
  | nil => rfl
  | cons t ts ih =>
    rw [List.cons_append, place, ih, joined_cons, List.length_append, Nat.add_assoc]
    rfl

theorem exists_mem_place (h : t ∈ ts) (offset : Nat) : ∃ o, (o, t) ∈ place offset ts := by
  induction ts generalizing offset with
  | nil => cases h
  | cons u us ih =>
    rcases List.mem_cons.mp h with rfl | hmem
    · exact ⟨offset, List.mem_cons_self⟩
    · obtain ⟨o, ho⟩ := ih hmem (offset + u.text.length)
      exact ⟨o, List.mem_cons_of_mem _ ho⟩

theorem exists_place {i : Nat} (hi : i < (joined ts).length) (offset : Nat) :
    ∃ o t, (o, t) ∈ place offset ts ∧ o ≤ offset + i ∧ offset + i < o + t.text.length := by
  induction ts generalizing offset i with
  | nil => cases hi
  | cons u us ih =>
    by_cases hu : i < u.text.length
    · exact ⟨offset, u, List.mem_cons_self, Nat.le_add_right offset i, by omega⟩
    · rw [joined_cons, List.length_append] at hi
      obtain ⟨o, t, hmem, hle, hlt⟩ := ih (i := i - u.text.length) (by omega)
        (offset + u.text.length)
      exact ⟨o, t, List.mem_cons_of_mem _ hmem, by omega, by omega⟩

theorem place_getElem? (h : (o, t) ∈ place offset ts) (i : Nat) (hi : i < t.text.length) :
    (joined ts)[o - offset + i]? = t.text[i]? := by
  induction ts generalizing offset with
  | nil => cases h
  | cons u us ih =>
    rcases List.mem_cons.mp h with heq | hmem
    · obtain ⟨rfl, rfl⟩ := Prod.mk.inj heq
      rw [Nat.sub_self, Nat.zero_add, joined_cons, List.getElem?_append_left hi]
    · have hle := (place_bounds hmem).1
      rw [joined_cons, List.getElem?_append_right (by omega), ← ih hmem]
      congr 1
      omega

theorem place_pairwise (offset : Nat) (ts : List Token) :
    (place offset ts).Pairwise fun x y => x.1 + x.2.text.length ≤ y.1 := by
  induction ts generalizing offset with
  | nil => exact List.Pairwise.nil
  | cons t ts ih => exact List.Pairwise.cons (fun y hy => (place_bounds hy).1) (ih _)

theorem place_apart {o' : Nat} {t' : Token} (h : (o, t) ∈ place offset ts)
    (h' : (o', t') ∈ place offset ts) :
    (o, t) = (o', t') ∨ o + t.text.length ≤ o' ∨ o' + t'.text.length ≤ o := by
  have hpair := place_pairwise offset ts
  refine List.Pairwise.forall_of_forall_of_flip
    (R := fun x y => x = y ∨ x.1 + x.2.text.length ≤ y.1 ∨ y.1 + y.2.text.length ≤ x.1)
    (fun _ _ => Or.inl rfl) (hpair.imp fun hle => Or.inr (Or.inl hle)) (hpair.imp ?_) h h'
  intro x y hle
  exact Or.inr (Or.inr hle)

end Token

namespace Lexemes

@[simp]
theorem empty_append (x : Lexemes) : ({} : Lexemes) ++ x = x := rfl

@[simp]
theorem append_empty (x : Lexemes) : x ++ ({} : Lexemes) = x := by
  change Lexemes.mk (x.delimiters ++ []) (x.comments ++ []) = x
  rw [List.append_nil, List.append_nil]

theorem append_assoc (x y z : Lexemes) : x ++ y ++ z = x ++ (y ++ z) := by
  change Lexemes.mk (x.delimiters ++ y.delimiters ++ z.delimiters)
    (x.comments ++ y.comments ++ z.comments) = _
  rw [List.append_assoc, List.append_assoc]
  rfl

@[simp]
theorem ofTokens_nil (offset : Nat) : ofTokens offset [] = {} := rfl

theorem ofTokens_cons (offset : Nat) (t : Token) (ts : List Token) :
    ofTokens offset (t :: ts) = ofTokens offset [t] ++ ofTokens (offset + t.text.length) ts := by
  have hplace : Token.place offset (t :: ts) =
      Token.place offset [t] ++ Token.place (offset + t.text.length) ts := rfl
  rw [ofTokens, hplace, List.filter_append, List.filter_append, List.map_append, List.map_append]
  rfl

theorem ofTokens_comment {t : Token} (ht : t.isComment = true) (offset : Nat) :
    ofTokens offset [t] = { comments := [(offset, offset + t.text.length)] } := by
  have hne : t ≠ .delimiter := by
    rintro rfl
    cases ht
  simp [ofTokens, Token.place, hne, ht]

theorem ofTokens_other {t : Token} (hne : t ≠ .delimiter) (ht : t.isComment = false)
    (offset : Nat) : ofTokens offset [t] = {} := by
  simp [ofTokens, Token.place, hne, ht]

variable {offset : Nat} {ts : List Token}

theorem delimiters_sorted (offset : Nat) (ts : List Token) :
    (ofTokens offset ts).delimiters.Pairwise (· < ·) := by
  rw [ofTokens, List.pairwise_map]
  refine ((Token.place_pairwise offset ts).filter _).imp_of_mem ?_
  intro x y hx hy h
  have : x.2 = .delimiter := by simpa using (List.mem_filter.mp hx).2
  rw [this] at h
  exact h

theorem comments_sorted (offset : Nat) (ts : List Token) :
    (ofTokens offset ts).comments.Pairwise fun a b => a.2 ≤ b.1 := by
  rw [ofTokens, List.pairwise_map]
  exact (Token.place_pairwise offset ts).filter _

theorem mem_delimiters {d : Nat} :
    d ∈ (ofTokens offset ts).delimiters ↔ (d, Token.delimiter) ∈ Token.place offset ts := by
  simp [ofTokens]

theorem delimiters_cons_of_ne {t : Token} (ht : t ≠ .delimiter) :
    (ofTokens offset (t :: ts)).delimiters = (ofTokens (offset + t.text.length) ts).delimiters := by
  simp [ofTokens, Token.place, ht]

theorem delimiters_eq_nil (h : .delimiter ∉ ts) : (ofTokens offset ts).delimiters = [] :=
  List.eq_nil_iff_forall_not_mem.mpr fun _ hd => h (Token.mem_of_mem_place (mem_delimiters.mp hd))

theorem mem_comments {start stop : Nat} :
    (start, stop) ∈ (ofTokens offset ts).comments ↔
      ∃ t, t.isComment = true ∧ (start, t) ∈ Token.place offset ts ∧
        stop = start + t.text.length := by
  rw [ofTokens, List.mem_map]
  constructor
  · rintro ⟨⟨o, t⟩, hmem, heq⟩
    obtain ⟨rfl, rfl⟩ := Prod.mk.inj heq
    obtain ⟨hmem, hcomment⟩ := List.mem_filter.mp hmem
    exact ⟨t, hcomment, hmem, rfl⟩
  · rintro ⟨t, hcomment, hmem, rfl⟩
    exact ⟨(start, t), List.mem_filter.mpr ⟨hmem, hcomment⟩, rfl⟩

theorem getElem?_of_mem_delimiters {d : Nat} (h : d ∈ (ofTokens offset ts).delimiters) :
    (Token.joined ts)[d - offset]? = some ';' :=
  Token.place_getElem? (mem_delimiters.mp h) 0 (by decide)

theorem inComment_iff {i : Nat} : (ofTokens offset ts).inComment i = true ↔
    ∃ o t, (o, t) ∈ Token.place offset ts ∧ t.isComment = true ∧ o ≤ i ∧ i < o + t.text.length := by
  rw [inComment, List.any_eq_true]
  constructor
  · rintro ⟨⟨start, stop⟩, hspan, hin⟩
    obtain ⟨t, hcomment, hmem, rfl⟩ := mem_comments.mp hspan
    rw [Bool.and_eq_true, decide_eq_true_eq, decide_eq_true_eq] at hin
    exact ⟨start, t, hmem, hcomment, hin⟩
  · rintro ⟨o, t, hmem, hcomment, hin⟩
    refine ⟨(o, o + t.text.length), mem_comments.mpr ⟨t, hcomment, hmem, rfl⟩, ?_⟩
    rw [Bool.and_eq_true, decide_eq_true_eq, decide_eq_true_eq]
    exact hin

theorem inComment_of_mem_place {o i : Nat} {t : Token} (h : (o, t) ∈ Token.place offset ts)
    (ht : t.isComment = false) (hle : o ≤ i) (hlt : i < o + t.text.length) :
    (ofTokens offset ts).inComment i = false := by
  rw [Bool.eq_false_iff]
  intro hin
  obtain ⟨o', t', hmem, hcomment, hle', hlt'⟩ := inComment_iff.mp hin
  rcases Token.place_apart h hmem with heq | hbefore | hbehind
  · obtain ⟨-, rfl⟩ := Prod.mk.inj heq
    rw [ht] at hcomment
    cases hcomment
  · omega
  · omega

theorem inComment_of_mem_delimiters {d : Nat} (h : d ∈ (ofTokens offset ts).delimiters) :
    (ofTokens offset ts).inComment d = false :=
  inComment_of_mem_place (mem_delimiters.mp h) rfl (Nat.le_refl d) (Nat.lt_succ_self d)

end Lexemes

end CaretSql
