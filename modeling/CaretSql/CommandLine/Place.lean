import CaretSql.Character.Blank
import CaretSql.Position
import CaretSql.Text.Numeral
import CaretSql.Word

/-! Places and ranges as they are written on the command line, such as `3:14` and `3:0-4:0`. -/

namespace CaretSql

inductive PlaceError
  | noPlace (text : List Char)
  | badRow (text : List Char)
  | badColumn (text : List Char)
  /-- there is no row zero -/
  | rowZero
  | noRange (text : List Char)
deriving DecidableEq, Repr

def PlaceError.message : PlaceError → String
  | .noPlace s => "Invalid position: '" ++ String.ofList s ++ "'. Expected ROW:COL"
  | .badRow s => "Invalid row: '" ++ String.ofList s ++ "'"
  | .badColumn s => "Invalid column: '" ++ String.ofList s ++ "'"
  | .rowZero => "Rows start at 1"
  | .noRange s => "Invalid selection: '" ++ String.ofList s ++ "'. Expected ROW:COL-ROW:COL"

/-- what stands before and after the first occurrence of a character -/
def splitAtFirst? (c : Char) (s : List Char) : Option (List Char × List Char) :=
  let before := s.takeWhile (· != c)
  if before.length < s.length then some (before, s.drop (before.length + 1)) else none

namespace Position

def parse (s : List Char) : Except PlaceError Position :=
  match splitAtFirst? ':' (Character.trim s) with
  | none => .error (.noPlace s)
  | some (row, column) =>
    match Text.Numeral.parse? wordSize row with
    | none => .error (.badRow row)
    | some r =>
      match Text.Numeral.parse? wordSize column with
      | none => .error (.badColumn column)
      | some c => if r = 0 then .error .rowZero else .ok ⟨r, c⟩

end Position

namespace TextRange

def parse (s : List Char) : Except PlaceError TextRange :=
  match splitAtFirst? '-' s with
  | none => .error (.noRange s)
  | some (start, stop) => do return ⟨← Position.parse start, ← Position.parse stop⟩

end TextRange

end CaretSql
