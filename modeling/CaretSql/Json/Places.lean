import CaretSql.ErrorLocation
import CaretSql.Json.Record

/-! Places, requests and error locations as JSON. -/

namespace CaretSql

def Json.word? (j : Json) : Option Nat := j.natBelow? wordSize

namespace Position

def toJson (p : Position) : Json := .object [("row", .nat p.row), ("column", .nat p.column)]

def ofJson? (j : Json) : Option Position := do
  let r ← Json.Record.ofJson? false ["row", "column"] j
  return ⟨← r.required "row" Json.word?, ← r.required "column" Json.word?⟩

end Position

namespace TextRange

def toJson (r : TextRange) : Json := .object [("start", r.start.toJson), ("end", r.stop.toJson)]

def ofJson? (j : Json) : Option TextRange := do
  let r ← Json.Record.ofJson? false ["start", "end"] j
  return ⟨← r.required "start" Position.ofJson?, ← r.required "end" Position.ofJson?⟩

end TextRange

namespace Request

def toJson (r : Request) : Json :=
  .object [("query", .text r.query), ("row", .nat r.row), ("column", .nat r.column)]

def ofJson? (j : Json) : Option Request := do
  let r ← Json.Record.ofJson? false ["query", "row", "column"] j
  return ⟨← r.required "query" Json.chars?, ← r.required "row" Json.word?,
    ← r.required "column" Json.word?⟩

end Request

namespace ErrorLocation

def toJson (l : ErrorLocation) : Json :=
  .object [("position", l.position.toJson), ("span", l.span.toJson)]

def ofJson? (j : Json) : Option ErrorLocation := do
  let r ← Json.Record.ofJson? false ["position", "span"] j
  return ⟨← r.required "position" Position.ofJson?, ← r.required "span" TextRange.ofJson?⟩

end ErrorLocation

end CaretSql
