import CaretSql.Character.LetterCase
import CaretSql.QueryResult
import CaretSql.Text.Utf8

/-! Cells of PostgreSQL rows: the bytes of a value in binary form, read by the name of the type of
its column. -/

namespace CaretSql.Postgres

/-- NULL has no bytes. -/
abbrev Cell := Option (List UInt8)

def unsigned (bytes : List UInt8) : Nat := bytes.foldl (fun n b => 256 * n + b.toNat) 0

def int? (size : Nat) (bytes : List UInt8) : Option Int :=
  let n := unsigned bytes
  if bytes.length ≠ size then none
  else if 2 * n < Nat.pow 256 size then some n else some ((n : Int) - (Nat.pow 256 size : Nat))

def float32? (bytes : List UInt8) : Option Binary64 :=
  if bytes.length = 4 then some (.ofBits32 (UInt32.ofNat (unsigned bytes))) else none

def float64? (bytes : List UInt8) : Option Binary64 :=
  if bytes.length = 8 then some ⟨UInt64.ofNat (unsigned bytes)⟩ else none

def bool? (bytes : List UInt8) : Option Bool := bytes.head?.map (· != 0)

def textTypes : List String := ["TEXT", "VARCHAR", "CHAR", "NAME", "UNKNOWN", "CITEXT"]

/-- the value of a type that is known; letter case does not matter in its name -/
def value? (type : String) (bytes : List UInt8) : Option Value :=
  let type := String.ofList (Character.toUpper type.toList)
  if type ∈ ["BOOL", "BOOLEAN"] then (bool? bytes).map .bool
  else if type ∈ ["INT2", "SMALLINT"] then (int? 2 bytes).map .int
  else if type ∈ ["INT4", "INT", "INTEGER"] then (int? 4 bytes).map .int
  else if type ∈ ["INT8", "BIGINT"] then (int? 8 bytes).map .int
  else if type ∈ ["FLOAT4", "REAL"] then (float32? bytes).map .float
  else if type ∈ ["FLOAT8", "DOUBLE PRECISION"] then (float64? bytes).map .float
  else if type = "BYTEA" then some (.bytes bytes)
  else if type ∈ textTypes then (Text.ofUtf8? bytes).map fun s => .string (String.ofList s)
  else none

/-- Values of other types, and bytes that their type does not have, come out as NULL. -/
def convert (column : Column) (cell : Cell) : Value :=
  (cell.bind (value? column.dataType)).getD .null

def convertRow (columns : List Column) (cells : List Cell) : List Value :=
  columns.zipWith convert cells

end CaretSql.Postgres
