import CaretSql.Json.Basic
import CaretSql.Toml.Value

/-! A TOML value as the JSON value that holds the same. A date is an object of one field, which
nothing asks for. -/

namespace CaretSql.Toml.Value

mutual

def toJson : Value → Json
  | .string s => .string s
  | .integer i => .int i
  | .float => .float ⟨0⟩
  | .boolean b => .bool b
  | .datetime => .object [("date", .null)]
  | .array items => .array (toItems items)
  | .table entries => .object (toFields entries)

def toItems : List Value → List Json
  | [] => []
  | v :: rest => toJson v :: toItems rest

def toFields : List (String × Value) → List (String × Json)
  | [] => []
  | (key, v) :: rest => (key, toJson v) :: toFields rest

end

end CaretSql.Toml.Value
