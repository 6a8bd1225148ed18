import CaretSql.Proofs.Text.Percent
import CaretSql.Url.Path

/-! A path without dot segments is its own, percent-encoded: no character that is encoded can pass for
a dot. -/

namespace CaretSql.Url.Path

open Text.Percent

variable {s t : List Char} {c : Char} {b : UInt8} {passed segments : List (List Char)}

/-- The first byte of a character is that of a full stop only for a full stop. -/
theorem eq_dot_of_utf8EncodeChar {bytes : List UInt8}
    (h : String.utf8EncodeChar c = 0x2E :: bytes) : c = '.' := by
  have hfirst := congrArg (·.head?.map UInt8.toNat) h
  have hval : c.val.toNat = c.toNat := rfl
  have hcode : c.toNat = 0x2E := by
    simp only [String.utf8EncodeChar] at hfirst
    -- beyond ASCII the first byte is at least 192
    repeat' split at hfirst
    all_goals simp at hfirst; omega
  rw [← Char.ofNat_toNat c, hcode]

theorem plainDots_eq_nil (h : plainDots s = []) : s = [] := by
  rw [plainDots.eq_def] at h
  split at h
  · split at h <;> cases h
  · cases h
  · rfl

theorem plainDots_of_ne (hc : c ≠ '%') (s : List Char) : plainDots (c :: s) = c :: plainDots s := by
  rw [plainDots.eq_def]
  split
  · next heq => exact absurd (List.cons.inj heq).1 hc
  · next heq =>
    obtain ⟨rfl, rfl⟩ := List.cons.inj heq
    rfl
  · next heq => cases heq

/-- A character that does not begin an encoded byte stays as it is. -/
theorem plainDots_cons (h : escape? (c :: s) = none) : plainDots (c :: s) = c :: plainDots s := by
  rw [plainDots.eq_def]
  split
  · next e rest heq =>
    obtain ⟨rfl, rfl⟩ := List.cons.inj heq
    split
    · next he => rcases he with rfl | rfl <;> cases h
    · rw [plainDots_of_ne (by decide) (e :: rest)]
  · next heq =>
    obtain ⟨rfl, rfl⟩ := List.cons.inj heq
    rfl
  · next heq => cases heq

theorem head?_plainDots_encodeByte (hb : b ≠ 0x2E) (s : List Char) :
    (plainDots (encodeByte b ++ s)).head? = some '%' := by
  have hlt := b.toNat_lt
  change (plainDots ('%' :: Text.hexDigit (b.toNat / 16) :: Text.hexDigit (b.toNat % 16) ::
    s)).head? = _
  rw [plainDots.eq_def]
  split
  · next e rest heq =>
    obtain ⟨hhigh, heq⟩ := List.cons.inj (List.cons.inj heq).2
    obtain ⟨hlow, -⟩ := List.cons.inj heq
    have hsixteen := Text.hexValue?_hexDigit (b.toNat / 16) (by omega)
    have hone := Text.hexValue?_hexDigit (b.toNat % 16) (by omega)
    rw [hhigh] at hsixteen
    rw [hlow] at hone
    split
    · next he =>
      have he : Text.hexValue? e = some 14 := by rcases he with rfl | rfl <;> rfl
      rw [he] at hone
      have htwo : 2 = b.toNat / 16 := Option.some.inj hsixteen
      have hfourteen : 14 = b.toNat % 16 := Option.some.inj hone
      exact absurd (UInt8.toNat_inj.mp (show b.toNat = (0x2E : UInt8).toNat by
        change b.toNat = 46
        omega)) hb
    · rfl
  · next heq =>
    rw [← (List.cons.inj heq).1]
    rfl
  · next heq => cases heq

/-- Only what begins with a dot looks as if it did once it is encoded. -/
theorem plainDots_encode_eq_cons (h : Plain s) (hdot : plainDots (encode isKept s) = '.' :: t) :
    ∃ rest, s = '.' :: rest ∧ plainDots (encode isKept rest) = t := by
  cases s with
  | nil => cases hdot
  | cons c s =>
    have hescape := escape?_cons_encode isKept (plain_cons.mp h).1
    rw [encode_cons] at hdot
    split at hdot
    · rw [List.singleton_append, plainDots_cons hescape] at hdot
      obtain ⟨rfl, ht⟩ := List.cons.inj hdot
      exact ⟨s, rfl, ht⟩
    · next hkept =>
      obtain ⟨b, bytes, hbytes⟩ :=
        List.exists_cons_of_ne_nil (String.utf8EncodeChar_ne_nil (c := c))
      have hb : b ≠ 0x2E := by
        rintro rfl
        rw [eq_dot_of_utf8EncodeChar hbytes] at hkept
        exact hkept (by decide)
      have hhead := congrArg List.head? hdot
      rw [encodeChar, hbytes, List.flatMap_cons, List.append_assoc,
        head?_plainDots_encodeByte hb] at hhead
      cases hhead

theorem plainDots_encode_eq_dot (h : Plain s) (hdot : plainDots (encode isKept s) = ['.']) :
    s = ['.'] := by
  obtain ⟨rest, rfl, hrest⟩ := plainDots_encode_eq_cons h hdot
  have hnil : encode isKept rest = [] := plainDots_eq_nil hrest
  obtain rfl : rest = [] := by
    by_contra hne
    exact encode_ne_nil isKept hne hnil
  rfl

theorem plainDots_encode_eq_dots (h : Plain s)
    (hdots : plainDots (encode isKept s) = ['.', '.']) : s = ['.', '.'] := by
  obtain ⟨rest, rfl, hrest⟩ := plainDots_encode_eq_cons h hdots
  rw [plainDots_encode_eq_dot (plain_cons.mp h).2 hrest]

/-- The segment moves around in its path. -/
def IsDots (segment : List Char) : Prop := segment = ['.'] ∨ segment = ['.', '.']

instance (segment : List Char) : Decidable (IsDots segment) := inferInstanceAs (Decidable (_ ∨ _))

/-- Segments that are not dots are passed one by one. -/
theorem walk_of_not_dots (hplain : ∀ s ∈ segments, Plain s) (hdots : ∀ s ∈ segments, ¬ IsDots s) :
    walk passed (segments.map (encode isKept)) =
      (segments.map (encode isKept)).reverse ++ passed := by
  induction segments generalizing passed with
  | nil => rfl
  | cons s more ih =>
    obtain ⟨hplain, hmore⟩ := List.forall_mem_cons.mp hplain
    obtain ⟨hnot, hrest⟩ := List.forall_mem_cons.mp hdots
    rw [List.map_cons, walk]
    rw [if_neg fun hdots => hnot (.inr (plainDots_encode_eq_dots hplain hdots)),
      if_neg fun hdot => hnot (.inl (plainDots_encode_eq_dot hplain hdot)), ih hmore hrest,
      List.reverse_cons, List.append_assoc, List.singleton_append]

theorem flatMap_slash (segments : List (List Char)) (h : segments ≠ []) :
    segments.flatMap ('/' :: ·) = '/' :: ['/'].intercalate segments := by
  induction segments with
  | nil => exact absurd rfl h
  | cons s more ih =>
    cases more with
    | nil => simp
    | cons next more => rw [List.flatMap_cons, ih (List.cons_ne_nil _ _)]; simp

theorem flatMap_splitOn (s : List Char) : (s.splitOn '/').flatMap ('/' :: ·) = '/' :: s := by
  rw [flatMap_slash _ (List.splitOn_ne_nil '/' s), List.intercalate_splitOn]

theorem resolve_splitOn (hplain : Plain s) (hdots : ∀ segment ∈ s.splitOn '/', ¬ IsDots segment) :
    resolve (s.splitOn '/') = '/' :: encode isKept s := by
  have hwhole : Plain ('/' :: s) := plain_cons.mpr ⟨rfl, hplain⟩
  have hsegments : ∀ segment ∈ s.splitOn '/', Plain segment := by
    intro segment hmem
    obtain ⟨before, behind, hsplit⟩ := List.append_of_mem hmem
    apply hwhole.of_infix
    rw [← flatMap_splitOn, hsplit, List.flatMap_append, List.flatMap_cons]
    exact ⟨before.flatMap ('/' :: ·) ++ ['/'], behind.flatMap ('/' :: ·), by simp⟩
  rw [resolve, walk_of_not_dots hsegments hdots, List.append_nil, List.reverse_reverse]
  calc ((s.splitOn '/').map (encode isKept)).flatMap ('/' :: ·)
      = (s.splitOn '/').flatMap fun segment => encode isKept ('/' :: segment) := by
        rw [List.flatMap_map]
        rfl
    _ = encode isKept ((s.splitOn '/').flatMap ('/' :: ·)) := List.flatMap_assoc.symm
    _ = '/' :: encode isKept s := by
        rw [flatMap_splitOn]
        rfl

end CaretSql.Url.Path
