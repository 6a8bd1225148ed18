import CaretSql.Binary64.Shortest
import CaretSql.Duration

/-! What an engine gives back for a statement: rows, the news that there are none to give, or
a complaint about a place in the statement. -/

namespace CaretSql

inductive Value
  | null
  | bool (b : Bool)
  | int (i : Int)
  | float (f : Binary64)
  | string (s : String)
  | bytes (b : List UInt8)
deriving DecidableEq, Repr

namespace Value

/-- Nothing is null. -/
def ofOption {α : Type} (f : α → Value) : Option α → Value
  | none => .null
  | some a => f a

def isNull : Value → Bool
  | .null => true
  | _ => false

def display : Value → String
  | .null => "NULL"
  | .bool b => if b then "true" else "false"
  | .int i => toString i
  | .float f => f.display
  | .string s => s
  | .bytes b => "<" ++ toString b.length ++ " bytes>"

end Value

structure Column where
  name : String
  dataType : String
deriving DecidableEq, Repr

inductive ResultKind
  /-- a change of schema or data, without rows -/
  | ddl
  /-- a query for rows -/
  | dql
deriving DecidableEq, Repr

structure QueryResult where
  /-- the statement as the engine received it -/
  query : List Char
  kind : ResultKind
  columns : List Column
  rows : List (List Value)
  /-- how many rows the statement produced, before any were dropped -/
  rowCount : Nat
  wasTruncated : Bool
  timings : Option Timings
deriving DecidableEq, Repr

namespace QueryResult

def ddl (query : List Char) : QueryResult := ⟨query, .ddl, [], [], 0, false, none⟩

def dql (query : List Char) (columns : List Column) (rows : List (List Value)) : QueryResult :=
  ⟨query, .dql, columns, rows, rows.length, false, none⟩

/-- Keeps at most `limit` rows; the row count still tells how many there were. -/
def truncatedTo (limit : Nat) (r : QueryResult) : QueryResult :=
  if limit < r.rows.length then { r with rows := r.rows.take limit, wasTruncated := true } else r

def withTimings (t : Timings) (r : QueryResult) : QueryResult := { r with timings := some t }

def isEmpty (r : QueryResult) : Bool := r.rows.isEmpty

end QueryResult

/-- A statement rejected by the engine, with the offset of its complaint in the statement. -/
structure EngineFailure where
  message : String
  offset : Nat
deriving DecidableEq, Repr

namespace EngineFailure

def unpositioned (message : String) : EngineFailure := ⟨message, 0⟩

end EngineFailure

abbrev Outcome := Except EngineFailure QueryResult

end CaretSql
