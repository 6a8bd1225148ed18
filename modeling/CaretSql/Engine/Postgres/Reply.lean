import CaretSql.Character.Blank
import CaretSql.Engine.Postgres.Cell

/-! What a PostgreSQL server replies to a statement, and the outcome that this makes. -/

namespace CaretSql.Postgres

/-- The server counts characters from one. -/
inductive ComplaintPosition
  /-- in the statement that was sent -/
  | sent (position : Nat)
  /-- in a statement that the server made itself -/
  | internal (position : Nat) (query : String)
deriving DecidableEq, Repr

structure Complaint where
  message : String
  detail : Option String := none
  hint : Option String := none
  position : Option ComplaintPosition := none
deriving DecidableEq, Repr

namespace Complaint

def text (c : Complaint) : String :=
  c.message ++ (c.detail.elim "" ("\n  DETAIL: " ++ ·)) ++ (c.hint.elim "" ("\n  HINT: " ++ ·))

/-- the offset into the statement; what has no place in it is about its beginning -/
def offset (c : Complaint) : Nat :=
  match c.position with
  | some (.sent position) => position - 1
  | _ => 0

end Complaint

inductive Reply
  | rows (columns : List Column) (rows : List (List Cell))
  | rejected (complaint : Complaint)
  /-- the connection broke -/
  | broken (text : String)
  /-- none within the time allowed -/
  | silence
deriving DecidableEq, Repr

def rowKeywords : List String := ["SELECT", "WITH", "SHOW", "VALUES", "TABLE", "EXPLAIN"]

/-- Does the statement ask for rows, by its first word? -/
def returnsRows (query : List Char) : Bool :=
  let word := (Character.trimStart query).takeWhile Char.isAlpha
  rowKeywords.contains (String.ofList (word.map Char.toUpper))

def setup (timeoutSeconds : Nat) : String :=
  "SET statement_timeout = " ++ toString (timeoutSeconds * 1000)

/-- Without rows the columns are unknown, and the statement tells what kind of result it is. -/
def table (limit : Nat) (query : List Char) (columns : List Column) :
    List (List Cell) → QueryResult
  | [] => if returnsRows query then .dql query [] [] else .ddl query
  | rows =>
    { QueryResult.dql query columns ((rows.take limit).map (convertRow columns)) with
      rowCount := rows.length
      wasTruncated := limit < rows.length }

def outcome (timeoutSeconds limit : Nat) (timings : Timings) (query : List Char) : Reply → Outcome
  | .rows columns rows => .ok ((table limit query columns rows).withTimings timings)
  | .rejected complaint => .error ⟨complaint.text, complaint.offset⟩
  | .broken text => .error (.unpositioned text)
  | .silence =>
    .error (.unpositioned ("Query timed out after " ++ toString timeoutSeconds ++ " seconds"))

end CaretSql.Postgres
