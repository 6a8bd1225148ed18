import CaretSql.Character.Blank
import CaretSql.Character.LetterCase
import CaretSql.QueryResult

/-! An engine without a database. It answers from a script, or else with one made-up row for
a statement that asks for rows, and counts what it was asked. A gated one holds every execution
until it is given a permit. -/

namespace CaretSql.Scripted

inductive Response
  | rows (columns : List Column) (rows : List (List Value))
  | noRows
  | fail (message : String) (offset : Nat)
deriving DecidableEq, Repr

def asksForRows (query : List Char) : Bool :=
  let head := Character.toUpper (Character.trimStart query)
  "SELECT".toList.isPrefixOf head || "WITH".toList.isPrefixOf head

def defaultResponse (query : List Char) : Response :=
  if asksForRows query then
    .rows [⟨"result", "text"⟩] [[.string ("Mock result for: " ++ String.ofList query)]]
  else .noRows

structure Engine where
  /-- the latest script for a statement comes first -/
  script : List (List Char × Response) := []
  /-- the permits at hand, if the engine is gated -/
  permits : Option Nat := none
  /-- what the stopwatch shows for every result set -/
  timings : Timings := ⟨⟨0⟩, ⟨0⟩⟩
  executed : List (List Char) := []
  inFlight : Nat := 0
  peak : Nat := 0
  completed : Nat := 0
deriving DecidableEq, Repr

namespace Engine

def respondTo (query : List Char) (r : Response) (e : Engine) : Engine :=
  { e with script := (query, r) :: e.script }

def response (e : Engine) (query : List Char) : Response :=
  match e.script.find? (·.1 == query) with
  | some (_, r) => r
  | none => defaultResponse query

def outcome (e : Engine) (limit : Nat) (query : List Char) : Outcome :=
  match e.response query with
  | .rows columns rows =>
    .ok ((QueryResult.dql query columns rows).truncatedTo limit |>.withTimings e.timings)
  | .noRows => .ok (.ddl query)
  | .fail message offset => .error ⟨message, offset⟩

def begin (query : List Char) (e : Engine) : Engine :=
  { e with
    executed := e.executed ++ [query]
    inFlight := e.inFlight + 1
    peak := max e.peak (e.inFlight + 1) }

def release (e : Engine) : Engine := { e with permits := e.permits.map (· + 1) }

/-- Passes the gate if there is none or a permit is at hand, using the permit up. -/
def pass? (e : Engine) : Option Engine :=
  match e.permits with
  | none => some e
  | some 0 => none
  | some (n + 1) => some { e with permits := some n }

def abandon (e : Engine) : Engine := { e with inFlight := e.inFlight - 1 }

def finish (limit : Nat) (query : List Char) (e : Engine) : Outcome × Engine :=
  (e.outcome limit query, { e with inFlight := e.inFlight - 1, completed := e.completed + 1 })

/-- One execution from start to end; none if it would wait at the gate for ever. -/
def execute? (limit : Nat) (query : List Char) (e : Engine) : Option (Outcome × Engine) :=
  (e.begin query).pass?.map (finish limit query)

end Engine

end CaretSql.Scripted
