import CaretSql.Proofs.Character.Trim
import CaretSql.Proofs.Document.Place
import CaretSql.Request

/-! The regions of a text and what is extracted from them. Whatever a caret extracts is one of the
regions between the delimiters, trimmed; a selection extracts a slice. -/

namespace CaretSql

namespace Request

/-- The region holds a character that is neither blank nor in a comment. -/
def Live (d : Document) (x : Lexemes) (start stop : Nat) : Prop :=
  ∃ i c, (d.slice start stop)[i]? = some c ∧ Character.isBlank c = false ∧
    x.inComment (start + i) = false

variable {d : Document} {x : Lexemes} {start stop : Nat} {r : Request}

theorem live_iff : Live d x start stop ↔
    ((d.slice start stop).zipIdx.any fun (c, i) =>
      !Character.isBlank c && !x.inComment (start + i)) = true := by
  rw [List.any_eq_true, Live]
  constructor
  · rintro ⟨i, c, hget, hb, hin⟩
    exact ⟨(c, i), List.mk_mem_zipIdx_iff_getElem?.mpr hget, by simp [hb, hin]⟩
  · rintro ⟨⟨c, i⟩, hmem, hlive⟩
    simp only [Bool.and_eq_true, Bool.not_eq_true'] at hlive
    exact ⟨i, c, List.mk_mem_zipIdx_iff_getElem?.mp hmem, hlive.1, hlive.2⟩

theorem ofRegion?_of_live (h : Live d x start stop) :
    ofRegion? d x start stop =
      some (ofSlice d (start + ((d.slice start stop).takeWhile Character.isBlank).length)
        (stop - ((d.slice start stop).reverse.takeWhile Character.isBlank).length)) :=
  if_pos (live_iff.mp h)

theorem ofRegion?_eq_some (h : ofRegion? d x start stop = some r) :
    Live d x start stop ∧
      r = ofSlice d (start + ((d.slice start stop).takeWhile Character.isBlank).length)
        (stop - ((d.slice start stop).reverse.takeWhile Character.isBlank).length) := by
  have hlive : Live d x start stop := by
    rw [live_iff]
    by_contra hnot
    rw [ofRegion?, if_neg hnot] at h
    cases h
  rw [ofRegion?_of_live hlive] at h
  exact ⟨hlive, (Option.some.inj h).symm⟩

theorem Live.exists_mem (h : Live d x start stop) :
    ∃ c ∈ d.slice start stop, Character.isBlank c = false := by
  obtain ⟨i, c, hget, hb, -⟩ := h
  exact ⟨c, List.mem_of_getElem? hget, hb⟩

def leadEnd (d : Document) (start stop : Nat) : Nat :=
  start + ((d.slice start stop).takeWhile Character.isBlank).length

theorem Live.leadEnd_lt_min (h : Live d x start stop) :
    leadEnd d start stop < min stop d.length := by
  have hsplit := congrArg List.length (Character.trim_split h.exists_mem)
  have hne := List.length_pos_iff.mpr (Character.trim_ne_nil h.exists_mem)
  rw [List.length_append, List.length_append, Document.length_slice] at hsplit
  unfold leadEnd
  omega

theorem Live.leadEnd_lt (h : Live d x start stop) : leadEnd d start stop < d.length := by
  have := h.leadEnd_lt_min
  omega

theorem Live.leadEnd_lt_stop (h : Live d x start stop) : leadEnd d start stop < stop := by
  have := h.leadEnd_lt_min
  omega

theorem query_ofRegion? (hstop : stop ≤ d.length) (h : ofRegion? d x start stop = some r) :
    r.query = Character.trim (d.slice start stop) := by
  obtain ⟨hlive, rfl⟩ := ofRegion?_eq_some h
  have hsplit := Character.trim_split hlive.exists_mem
  have hlen := congrArg List.length hsplit
  rw [List.length_append, List.length_append, Document.length_slice, List.length_reverse] at hlen
  set lead := (d.slice start stop).takeWhile Character.isBlank
  set trail := (d.slice start stop).reverse.takeWhile Character.isBlank
  set mid := Character.trim (d.slice start stop)
  have hmid : 0 < mid.length := List.length_pos_iff.mpr (Character.trim_ne_nil hlive.exists_mem)
  have hend : stop - trail.length = start + (lead.length + mid.length) := by omega
  have hle : start + (lead.length + mid.length) ≤ stop := by omega
  calc d.slice (start + lead.length) (stop - trail.length)
      = ((d.slice start stop).take (lead.length + mid.length)).drop lead.length := by
        rw [hend, Document.slice_take d hle, Document.slice_drop]
    _ = mid := by
        rw [hsplit, ← List.length_append, List.take_left' rfl, List.drop_left' rfl]

/-- the pieces between the delimiters from `start` on -/
def regions (d : Document) : Nat → List Nat → List (Nat × Nat)
  | start, [] => [(start, d.length)]
  | start, stop :: more => (start, stop) :: regions d (stop + 1) more

/-- Whatever a caret extracts, it extracts one of the regions. -/
theorem underCaret_mem {caret : Nat} {before : Option (Nat × Nat)} {delimiters : List Nat}
    (h : underCaret d x caret before start delimiters = some r) :
    ∃ region, (before = some region ∨ region ∈ regions d start delimiters) ∧
      ofRegion? d x region.1 region.2 = some r := by
  have fallback : ∀ {start before}, ofRegionBefore? d x caret start before = some r →
      ∃ region, before = some region ∧ ofRegion? d x region.1 region.2 = some r := by
    intro start before hb
    unfold ofRegionBefore? at hb
    split at hb
    · cases hb
    · obtain ⟨region, hregion, hr⟩ := Option.bind_eq_some_iff.mp hb
      exact ⟨region, hregion, hr⟩
  induction delimiters generalizing before start with
  | nil =>
    unfold underCaret at h
    split at h
    · rcases Option.or_eq_some_iff.mp h with hr | ⟨-, hb⟩
      · exact ⟨(start, d.length), Or.inr (by simp [regions]), hr⟩
      · obtain ⟨region, hregion, hr⟩ := fallback hb
        exact ⟨region, Or.inl hregion, hr⟩
    · cases h
  | cons stop more ih =>
    have onward : underCaret d x caret (some (start, stop)) (stop + 1) more = some r →
        ∃ region, (before = some region ∨ region ∈ regions d start (stop :: more)) ∧
          ofRegion? d x region.1 region.2 = some r := by
      intro ho
      obtain ⟨region, hregion | hregion, hr⟩ := ih ho
      · obtain rfl := Option.some.inj hregion
        exact ⟨(start, stop), Or.inr (by simp [regions]), hr⟩
      · exact ⟨region, Or.inr (by simp [regions, hregion]), hr⟩
    unfold underCaret at h
    dsimp only at h
    split at h
    · rcases Option.or_eq_some_iff.mp h with hr | ⟨-, hb⟩
      · exact ⟨(start, stop), Or.inr (by simp [regions]), hr⟩
      · obtain ⟨region, hregion, hr⟩ := fallback hb
        exact ⟨region, Or.inl hregion, hr⟩
    · split at h
      · rcases Option.or_eq_some_iff.mp h with hr | ⟨-, ho⟩
        · exact ⟨(start, stop), Or.inr (by simp [regions]), hr⟩
        · exact onward ho
      · exact onward h

/-- A caret extracts one of the regions of its text. -/
theorem ofCaret?_mem {p : Position} (h : ofCaret? d p = some r) :
    ∃ region ∈ regions d 0 (Lexemes.ofText d.chars).delimiters,
      ofRegion? d (Lexemes.ofText d.chars) region.1 region.2 = some r := by
  obtain ⟨region, hregion | hregion, hr⟩ := underCaret_mem h
  · cases hregion
  · exact ⟨region, hregion, hr⟩

theorem extract?_eq_ofSlice {a : Anchor} (h : extract? d a = some r) :
    ∃ start stop, start ≤ d.length ∧ r = ofSlice d start stop := by
  have caret : ∀ {p : Position}, ofCaret? d p = some r →
      ∃ start stop, start ≤ d.length ∧ r = ofSlice d start stop := by
    intro p hp
    obtain ⟨region, -, hr⟩ := ofCaret?_mem hp
    obtain ⟨hlive, rfl⟩ := ofRegion?_eq_some hr
    exact ⟨_, _, Nat.le_of_lt hlive.leadEnd_lt, rfl⟩
  unfold extract? at h
  split at h
  · next range _ =>
    unfold ofSelection? at h
    dsimp only at h
    split at h
    · exact caret h
    · exact ⟨_, _, d.offsetOf_le_length range.start, (Option.some.inj h).symm⟩
  · exact caret h

end Request

end CaretSql
