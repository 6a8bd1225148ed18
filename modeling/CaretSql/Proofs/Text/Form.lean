import CaretSql.Text.Form
import CaretSql.Proofs.Text.Part
import CaretSql.Proofs.Text.Percent

/-! Form encoding is undone by decoding, of every text. An encoded text holds neither of the two
characters that separate the names and the values of a form, so a pair is read back as one pair,
whatever its value holds. -/

namespace CaretSql.Text.Form

variable {s : List Char} {c d : Char}

/-- the characters of a form: those that stand for themselves, the plus sign of a blank and the
percent sign of an encoded byte -/
def isUsed (c : Char) : Bool := isKept c || c == '+' || c == '%'

/-- what a form is read as before its bytes are -/
def unplus (s : List Char) : List Char := s.map fun c => if c = '+' then ' ' else c

theorem decode?_eq (s : List Char) : decode? s = Percent.decode? (unplus s) := rfl

theorem unplus_append (s t : List Char) : unplus (s ++ t) = unplus s ++ unplus t :=
  List.map_append

theorem isKept_hexDigit : ∀ n, n < 16 → isKept (hexDigit n) = true := by decide

theorem isKept_of_mem_encodeByte {b : UInt8} (h : c ∈ Percent.encodeByte b) :
    isKept c = true ∨ c = '%' := by
  have hb := b.toNat_lt
  simp only [Percent.encodeByte, List.mem_cons, List.not_mem_nil, or_false] at h
  rcases h with rfl | rfl | rfl
  · exact Or.inr rfl
  · exact Or.inl (isKept_hexDigit _ (by omega))
  · exact Or.inl (isKept_hexDigit _ (by omega))

theorem isKept_of_mem_encodeChar (h : c ∈ Percent.encodeChar d) : isKept c = true ∨ c = '%' := by
  obtain ⟨b, -, hb⟩ := List.mem_flatMap.mp h
  exact isKept_of_mem_encodeByte hb

theorem ne_plus_of_mem_encodeChar (h : c ∈ Percent.encodeChar d) : c ≠ '+' := by
  rintro rfl
  exact absurd (isKept_of_mem_encodeChar h) (by decide)

theorem encode_cons (c : Char) (s : List Char) :
    encode (c :: s) =
      (if c = ' ' then ['+'] else if isKept c then [c] else Percent.encodeChar c) ++ encode s :=
  rfl

theorem isUsed_of_mem_encode (h : c ∈ encode s) : isUsed c = true := by
  obtain ⟨d, -, hd⟩ := List.mem_flatMap.mp h
  split at hd
  · obtain rfl := List.mem_singleton.mp hd
    rfl
  · split at hd
    · next hkept =>
      obtain rfl := List.mem_singleton.mp hd
      simp [isUsed, hkept]
    · rcases isKept_of_mem_encodeChar hd with hkept | rfl
      · simp [isUsed, hkept]
      · rfl

theorem not_mem_encode (h : isUsed c = false) (s : List Char) : c ∉ encode s := fun hmem =>
  Bool.false_ne_true (h ▸ isUsed_of_mem_encode hmem)

theorem unplus_encodeChar (c : Char) : unplus (Percent.encodeChar c) = Percent.encodeChar c := by
  unfold unplus
  rw [List.map_congr_left fun d hd => if_neg (ne_plus_of_mem_encodeChar hd)]
  exact List.map_id _

theorem unplus_singleton (h : isKept c = true) : unplus [c] = [c] := by
  have hne : c ≠ '+' := by
    rintro rfl
    exact absurd h (by decide)
  rw [unplus, List.map_singleton, if_neg hne]

theorem escape?_of_ne (h : c ≠ '%') (s : List Char) : Percent.escape? (c :: s) = none := by
  unfold Percent.escape?
  split
  · next heq => exact absurd (List.cons.inj heq).1 h
  · rfl

theorem decodeBytes_unplus_encode (s : List Char) :
    Percent.decodeBytes (unplus (encode s)) = utf8 s := by
  induction s with
  | nil => rfl
  | cons c s ih =>
    rw [encode_cons, unplus_append]
    split
    · next hblank =>
      subst hblank
      change Percent.decodeBytes (' ' :: unplus (encode s)) = _
      rw [Percent.decodeBytes_cons (escape?_of_ne (by decide) _), ih]
      rfl
    · split
      · next hkept =>
        have hne : c ≠ '%' := by
          rintro rfl
          exact absurd hkept (by decide)
        rw [unplus_singleton hkept, List.singleton_append,
          Percent.decodeBytes_cons (escape?_of_ne hne _), ih]
        rfl
      -- a plus sign of the text is among these, so that only blanks are read from plus signs
      · rw [unplus_encodeChar, Percent.encodeChar, Percent.decodeBytes_encodeBytes, ih]
        rfl

theorem decode?_encode (s : List Char) : decode? (encode s) = some s := by
  rw [decode?_eq, Percent.decode?, decodeBytes_unplus_encode, Percent.ofUtf8?_utf8]

theorem encode_injective : Function.Injective encode := by
  intro s t h
  have hs := decode?_encode s
  rw [h, decode?_encode] at hs
  exact (Option.some.inj hs).symm

theorem pairs?_encodePair (name value : List Char) :
    pairs? (encodePair name value) = some [(name, value)] := by
  have hand : '&' ∉ encodePair name value := by
    simp [encodePair, not_mem_encode (c := '&') rfl]
  have hname : (encodePair name value).takeWhile (· != '=') = encode name :=
    takeWhile_ne (not_mem_encode rfl name) _
  have hvalue : (encodePair name value).drop ((encode name).length + 1) = encode value := by
    rw [encodePair, ← List.drop_drop, List.drop_left]
    rfl
  have hne : (encodePair name value).isEmpty = false := by
    simp [encodePair]
  unfold pairs?
  rw [List.splitOn_eq_singleton hand, List.filter_cons_of_pos (by simp [hne]), List.filter_nil]
  simp [hname, hvalue, decode?_encode]

example : encode "a b&=ä+%\n".toList = "a+b%26%3D%C3%A4%2B%25%0A".toList := by decide

end CaretSql.Text.Form
