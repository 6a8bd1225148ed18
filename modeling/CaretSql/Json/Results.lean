import CaretSql.Json.Places
import CaretSql.QueryResult

/-! Results and failures as JSON. A duration is its nanoseconds in a word, from which longer ones
drop out; a floating-point number that is not finite is null, which reads back as nothing. -/

namespace CaretSql

namespace Duration

def toJson (d : Duration) : Json := .nat (d.nanoseconds % wordSize)

def ofJson? (j : Json) : Option Duration := j.word?.map Duration.mk

end Duration

namespace Timings

def toJson (t : Timings) : Json :=
  .object [("execute", t.execute.toJson), ("fetch", t.fetch.toJson)]

def ofJson? (j : Json) : Option Timings := do
  let r ← Json.Record.ofJson? false ["execute", "fetch"] j
  return ⟨← r.required "execute" Duration.ofJson?, ← r.required "fetch" Duration.ofJson?⟩

end Timings

namespace Value

def toJson : Value → Json
  | .null => .string "Null"
  | .bool b => .object [("Bool", .bool b)]
  | .int i => .object [("Int", .int i)]
  | .float x => .object [("Float", if x.isFinite then .float x else .null)]
  | .string s => .object [("String", .string s)]
  | .bytes b => .object [("Bytes", .list (fun x => .nat x.toNat) b)]

def int64? (j : Json) : Option Int :=
  j.int?.bind fun i => if -Nat.pow 2 63 ≤ i ∧ i < Nat.pow 2 63 then some i else none

/-- Whole numbers are rounded. -/
def float? : Json → Option Binary64
  | .float x => some x
  | .int i => some (.ofInt i)
  | _ => none

def byte? (j : Json) : Option UInt8 := (j.natBelow? 256).map UInt8.ofNat

def ofJson? (j : Json) : Option Value :=
  if j.choice? = some "Null" then some .null
  else match j.choiceWith? with
    | some ("Bool", j) => j.bool?.map .bool
    | some ("Int", j) => (int64? j).map .int
    | some ("Float", j) => (float? j).map .float
    | some ("String", j) => j.string?.map .string
    | some ("Bytes", j) => (j.list? byte?).map .bytes
    | _ => none

end Value

namespace Column

def toJson (c : Column) : Json :=
  .object [("name", .string c.name), ("data_type", .string c.dataType)]

def ofJson? (j : Json) : Option Column := do
  let r ← Json.Record.ofJson? false ["name", "data_type"] j
  return ⟨← r.required "name" Json.string?, ← r.required "data_type" Json.string?⟩

end Column

namespace ResultKind

def name : ResultKind → String
  | .ddl => "ddl"
  | .dql => "dql"

def ofName? : String → Option ResultKind
  | "ddl" => some .ddl
  | "dql" => some .dql
  | _ => none

def toJson (k : ResultKind) : Json := .string k.name

def ofJson? (j : Json) : Option ResultKind := j.choice?.bind ofName?

end ResultKind

namespace QueryResult

def toJson (r : QueryResult) : Json :=
  .object [("query", .text r.query), ("kind", r.kind.toJson),
    ("columns", .list Column.toJson r.columns), ("rows", .list (Json.list Value.toJson) r.rows),
    ("row_count", .nat r.rowCount), ("was_truncated", .bool r.wasTruncated),
    ("timings", .ofOption Timings.toJson r.timings)]

def fieldNames : List String :=
  ["query", "kind", "columns", "rows", "row_count", "was_truncated", "timings"]

def ofJson? (j : Json) : Option QueryResult := do
  let r ← Json.Record.ofJson? false fieldNames j
  return {
    query := ← r.required "query" Json.chars?
    kind := ← r.required "kind" ResultKind.ofJson?
    columns := ← r.withDefault "columns" (Json.list? Column.ofJson?) []
    rows := ← r.withDefault "rows" (Json.list? (Json.list? Value.ofJson?)) []
    rowCount := ← r.required "row_count" Json.word?
    wasTruncated := ← r.withDefault "was_truncated" Json.bool? false
    timings := ← r.optional "timings" Timings.ofJson? }

end QueryResult

namespace EngineFailure

def toJson (f : EngineFailure) : Json :=
  .object [("message", .string f.message), ("offset", .nat f.offset)]

def ofJson? (j : Json) : Option EngineFailure := do
  let r ← Json.Record.ofJson? false ["message", "offset"] j
  return ⟨← r.required "message" Json.string?, ← r.required "offset" Json.word?⟩

end EngineFailure

end CaretSql
