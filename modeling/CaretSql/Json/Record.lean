import CaretSql.Json.Basic

/-! Records as JSON. A record is an object, whose unknown fields are passed over, or an array of
its fields in their order, which may break off before a field that has a default. -/

namespace CaretSql.Json

structure Record where
  fields : List (String × Json)
  /-- was it an array? -/
  positional : Bool

namespace Record

/-- Reads a record with fields of these names. An array must not go on behind the last field,
unless `lax`. -/
def ofJson? (lax : Bool) (names : List String) : Json → Option Record
  | .object fields => some ⟨fields, false⟩
  | .array items => if items.length ≤ names.length ∨ lax then some ⟨names.zip items, true⟩ else none
  | _ => none

variable {α : Type}

/-- a field that has to be there -/
def required (name : String) (read : Json → Option α) (r : Record) : Option α :=
  (r.fields.lookup name).bind read

def optional (name : String) (read : Json → Option α) (r : Record) : Option (Option α) :=
  match r.fields.lookup name with
  | some j => j.option? read
  | none => if r.positional then none else some none

/-- a field that may be missing but, if it is there, has to be right -/
def withDefault (name : String) (read : Json → Option α) (usual : α) (r : Record) : Option α :=
  match r.fields.lookup name with
  | some j => read j
  | none => some usual

end Record

/-- A choice without data: its name, or an object that gives its name null. -/
def choice? : Json → Option String
  | .string name => some name
  | .object [(name, .null)] => some name
  | _ => none

/-- A choice with data: an object of one field. -/
def choiceWith? : Json → Option (String × Json)
  | .object [(name, j)] => some (name, j)
  | _ => none

end CaretSql.Json
