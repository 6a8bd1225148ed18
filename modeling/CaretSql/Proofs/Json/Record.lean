import CaretSql.Json.Places

/-! Reading back what was written as JSON, by the form of it: numbers, lists, what may be missing, and
the fields of a record. What is read of an element may differ from what was written, and then so does
what is read of the whole, in the same way. -/

namespace CaretSql.Json

variable {α : Type} {read : Json → Option α} {write : α → Json} {f : α → α}

theorem natBelow?_nat {bound n : Nat} (h : n < bound) : natBelow? bound (nat n) = some n := by
  rw [nat, natBelow?, if_pos ⟨Int.natCast_nonneg n, Int.ofNat_lt.mpr h⟩, Int.toNat_natCast]

theorem word?_nat {n : Nat} (h : n < wordSize) : word? (nat n) = some n := natBelow?_nat h

theorem chars?_text (s : List Char) : chars? (text s) = some s := by
  rw [text, chars?, string?, Option.map_some, String.toList_ofList]

theorem list?_list {items : List α} (h : ∀ a ∈ items, read (write a) = some (f a)) :
    list? read (list write items) = some (items.map f) := by
  rw [list, list?]
  induction items with
  | nil => rfl
  | cons a items ih =>
    obtain ⟨ha, hitems⟩ := List.forall_mem_cons.mp h
    rw [List.map_cons, List.mapM_cons, ha, ih hitems]
    rfl

/-- What is there is not taken for nothing, as long as it is not written as null. -/
theorem option?_ofOption {o : Option α} (hnull : ∀ a, write a ≠ .null)
    (h : ∀ a ∈ o, read (write a) = some (f a)) :
    (ofOption write o).option? read = some (o.map f) := by
  cases o with
  | none => rfl
  | some a =>
    rw [ofOption, option?]
    · rw [h a rfl]
      rfl
    · exact hnull a

namespace Record

variable {β : Type} {name : String} {j : Json} {r : Record} {a : α} {b : β} {next : α → Option β}

theorem bind_object (lax : Bool) (names : List String) (fields : List (String × Json))
    (next : Record → Option β) :
    (ofJson? lax names (.object fields) >>= next) = next ⟨fields, false⟩ := rfl

/-! A record is read field by field: one that is there, and then the others. -/

theorem bind_required (hfield : r.fields.lookup name = some j) (hread : read j = some a)
    (hnext : next a = some b) : (r.required name read >>= next) = some b := by
  rw [required, hfield, Option.bind_some, hread]
  exact hnext

theorem bind_withDefault {usual : α} (hfield : r.fields.lookup name = some j)
    (hread : read j = some a) (hnext : next a = some b) :
    (r.withDefault name read usual >>= next) = some b := by
  have hvalue : r.withDefault name read usual = some a := by
    rw [withDefault, hfield]
    exact hread
  rw [hvalue]
  exact hnext

theorem bind_optional {o : Option α} {next : Option α → Option β}
    (hfield : r.fields.lookup name = some j) (hread : j.option? read = some o)
    (hnext : next o = some b) : (r.optional name read >>= next) = some b := by
  have hvalue : r.optional name read = some o := by
    rw [optional, hfield]
    exact hread
  rw [hvalue]
  exact hnext

end Record

end CaretSql.Json
