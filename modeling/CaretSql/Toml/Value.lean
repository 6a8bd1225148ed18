/-! The values of a TOML document. Of floats and dates only their being there matters. -/

namespace CaretSql.Toml

inductive Value
  | string (s : String)
  | integer (i : Int)
  | float
  | boolean (b : Bool)
  | datetime
  | array (items : List Value)
  | table (entries : List (String × Value))

/-- What a reader of the text returns: what it read and the text after it. -/
abbrev Reader (α : Type) := List Char → Option (α × List Char)

end CaretSql.Toml
