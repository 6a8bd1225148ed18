import CaretSql.Text.Percent
import Mathlib.Data.List.Infix

/-! Percent encoding is undone by decoding, of a text that holds no encoded byte to begin with. The
percent sign itself may be kept, so a text that does hold one is read as something else. -/

namespace CaretSql.Text.Percent

variable {keep : Char → Bool} {s t : List Char} {c : Char} {b : UInt8}

def escape? : List Char → Option UInt8
  | '%' :: a :: b :: _ => do
    let high ← hexValue? a
    let low ← hexValue? b
    return UInt8.ofNat (16 * high + low)
  | _ => none

/-- Nowhere in the text does a byte stand in percent encoding. -/
def Plain (s : List Char) : Prop := ∀ t ∈ s.tails, escape? t = none

instance (s : List Char) : Decidable (Plain s) := inferInstanceAs (Decidable (∀ t ∈ s.tails, _))

theorem escape?_eq_some (h : escape? s = some b) :
    ∃ x y rest high low, s = '%' :: x :: y :: rest ∧ hexValue? x = some high ∧
      hexValue? y = some low ∧ b = UInt8.ofNat (16 * high + low) := by
  unfold escape? at h
  split at h
  · next x y rest =>
    obtain ⟨high, hhigh, h⟩ := Option.bind_eq_some_iff.mp h
    obtain ⟨low, hlow, h⟩ := Option.bind_eq_some_iff.mp h
    exact ⟨x, y, rest, high, low, rfl, hhigh, hlow, (Option.some.inj h).symm⟩
  · cases h

theorem escape?_append (h : escape? s = some b) (t : List Char) : escape? (s ++ t) = some b := by
  obtain ⟨x, y, rest, high, low, rfl, hhigh, hlow, rfl⟩ := escape?_eq_some h
  simp [escape?, hhigh, hlow]

theorem plain_cons : Plain (c :: s) ↔ escape? (c :: s) = none ∧ Plain s := by
  simp [Plain, List.tails]

theorem Plain.of_infix (h : Plain t) (hst : s <:+: t) : Plain s := by
  obtain ⟨before, behind, rfl⟩ := hst
  intro u hu
  rw [List.mem_tails] at hu
  obtain ⟨front, rfl⟩ := hu
  have hwhole := h (u ++ behind) ((List.mem_tails _ _).mpr ⟨before ++ front, by simp⟩)
  cases hescape : escape? u with
  | none => rfl
  | some b => rw [← hwhole, escape?_append hescape]

/-- A character that does not begin an encoded byte stands for itself. -/
theorem decodeBytes_cons (h : escape? (c :: s) = none) :
    decodeBytes (c :: s) = String.utf8EncodeChar c ++ decodeBytes s := by
  rw [decodeBytes.eq_def]
  split
  · next x y rest heq =>
    obtain ⟨rfl, rfl⟩ := List.cons.inj heq
    split
    · next high low hhigh hlow => simp [escape?, hhigh, hlow] at h
    · rfl
  · next heq =>
    obtain ⟨rfl, rfl⟩ := List.cons.inj heq
    rfl
  · next heq => cases heq

theorem decodeBytes_encodeByte (b : UInt8) (s : List Char) :
    decodeBytes (encodeByte b ++ s) = b :: decodeBytes s := by
  have hb := b.toNat_lt
  have hhigh := hexValue?_hexDigit (b.toNat / 16) (by omega)
  have hlow := hexValue?_hexDigit (b.toNat % 16) (by omega)
  have hsum : 16 * (b.toNat / 16) + b.toNat % 16 = b.toNat := by omega
  change decodeBytes ('%' :: hexDigit (b.toNat / 16) :: hexDigit (b.toNat % 16) :: s) = _
  rw [decodeBytes.eq_def]
  simp only [hhigh, hlow, hsum, UInt8.ofNat_toNat]

theorem decodeBytes_encodeBytes (bytes : List UInt8) (s : List Char) :
    decodeBytes (bytes.flatMap encodeByte ++ s) = bytes ++ decodeBytes s := by
  induction bytes with
  | nil => rfl
  | cons b bytes ih =>
    rw [List.flatMap_cons, List.append_assoc, decodeBytes_encodeByte, ih, List.cons_append]

theorem encode_cons (keep : Char → Bool) (c : Char) (s : List Char) :
    encode keep (c :: s) = (if keep c then [c] else encodeChar c) ++ encode keep s := rfl

theorem head?_encodeChar (c : Char) : (encodeChar c).head? = some '%' := by
  obtain ⟨b, bytes, hbytes⟩ := List.exists_cons_of_ne_nil (String.utf8EncodeChar_ne_nil (c := c))
  rw [encodeChar, hbytes]
  rfl

theorem encode_ne_nil (keep : Char → Bool) (h : s ≠ []) : encode keep s ≠ [] := by
  obtain ⟨c, rest, rfl⟩ := List.exists_cons_of_ne_nil h
  rw [encode_cons]
  split
  · exact List.cons_ne_nil _ _
  · intro hnil
    have hhead := head?_encodeChar c
    rw [(List.append_eq_nil_iff.mp hnil).1] at hhead
    cases hhead

/-- What an encoded text begins with it begins with already, if that is no percent sign. -/
theorem encode_eq_cons (h : encode keep s = c :: t) (hc : c ≠ '%') :
    ∃ rest, s = c :: rest ∧ encode keep rest = t := by
  cases s with
  | nil => cases h
  | cons d rest =>
    rw [encode_cons] at h
    split at h
    · obtain ⟨rfl, rfl⟩ := List.cons.inj h
      exact ⟨rest, rfl, rfl⟩
    · have hhead := congrArg List.head? h
      rw [List.head?_append, head?_encodeChar] at hhead
      exact absurd (Option.some.inj hhead).symm hc

/-- Encoding what follows a character makes no encoded byte of it. -/
theorem escape?_cons_encode (keep : Char → Bool) (h : escape? (c :: s) = none) :
    escape? (c :: encode keep s) = none := by
  rw [Option.eq_none_iff_forall_ne_some]
  intro b hb
  obtain ⟨x, y, rest, high, low, hwhole, hhigh, hlow, rfl⟩ := escape?_eq_some hb
  obtain ⟨rfl, hfirst⟩ := List.cons.inj hwhole
  have hx : x ≠ '%' := by
    rintro rfl
    cases hhigh
  have hy : y ≠ '%' := by
    rintro rfl
    cases hlow
  obtain ⟨s, rfl, hsecond⟩ := encode_eq_cons hfirst hx
  obtain ⟨s, rfl, -⟩ := encode_eq_cons hsecond hy
  simp [escape?, hhigh, hlow] at h

theorem decodeBytes_encode (h : Plain s) : decodeBytes (encode keep s) = utf8 s := by
  induction s with
  | nil => rfl
  | cons c s ih =>
    obtain ⟨hescape, hrest⟩ := plain_cons.mp h
    rw [encode_cons]
    split
    · rw [List.singleton_append, decodeBytes_cons (escape?_cons_encode keep hescape), ih hrest]
      rfl
    · rw [encodeChar, decodeBytes_encodeBytes, ih hrest]
      rfl

theorem ofUtf8?_utf8 (s : List Char) : ofUtf8? (utf8 s) = some s := by
  have hbytes : (⟨(utf8 s).toArray⟩ : ByteArray) = s.utf8Encode := by
    apply ByteArray.ext
    rw [List.utf8Encode, List.data_toByteArray]
    rfl
  rw [ofUtf8?, hbytes, List.utf8Decode?_utf8Encode, Option.map_some]

/-- A text without encoded bytes is read back from its encoding, whatever that keeps. -/
theorem decode?_encode (keep : Char → Bool) (h : Plain s) : decode? (encode keep s) = some s := by
  rw [decode?, decodeBytes_encode h, ofUtf8?_utf8]

end CaretSql.Text.Percent
