import CaretSql.Json.Notifications
import CaretSql.Json.Printer
import CaretSql.Session

/-! The report of a single run, gathered from the events of its session up to the moment it is
idle again, and its two written forms. -/

namespace CaretSql

structure RunError where
  message : String
  location : ErrorLocation
deriving DecidableEq, Repr

structure Report where
  request : Option Request := none
  result : Option QueryResult := none
  error : Option RunError := none
  feed : FeedState := ⟨[], 0⟩
deriving DecidableEq, Repr

namespace Report

def note (r : Report) : Event → Report
  | .runStarted run => { r with request := some run.request }
  | .resultReady _ result => { r with result := some result }
  | .errorLocated _ location message => { r with error := some ⟨message, location⟩ }
  | .feedChanged feed => { r with feed }
  | _ => r

def ofEvents (events : List Event) : Report :=
  (events.takeWhile (· != .stateChanged .idle)).foldl note {}

def errorJson (e : RunError) : Json :=
  .object [("message", .string e.message), ("location", e.location.toJson)]

def toJson (r : Report) : Json :=
  .object [("request", .ofOption Request.toJson r.request),
    ("result", .ofOption QueryResult.toJson r.result), ("error", .ofOption errorJson r.error),
    ("feed", r.feed.toJson)]

def kindLabel : NotificationKind → String
  | .success => "Success"
  | .error => "Error"
  | .info => "Info"

def notificationLine (n : Notification) : String :=
  "[" ++ kindLabel n.kind ++ "] " ++ n.title ++ n.detail.elim "" (": " ++ ·.display)

def resultLines (r : QueryResult) : List String :=
  let header := "\t".intercalate (r.columns.map (·.name))
  let rows := r.rows.map fun row => "\t".intercalate (row.map Value.display)
  let shown := "(" ++ toString r.rows.length ++ " of " ++ toString r.rowCount ++ " rows shown)"
  (if r.columns.isEmpty then [] else [header]) ++ rows ++ (if r.wasTruncated then [shown] else [])

def errorLine (e : RunError) : String := "error at " ++ e.location.position.text ++ ": " ++ e.message

def lines (r : Report) : List String :=
  match r.request with
  | none => ["Nothing to run at the caret."]
  | some request =>
    ["-- " ++ request.origin.text, String.ofList request.query] ++
      r.result.elim [] resultLines ++ (r.error.map errorLine).toList ++
      r.feed.notifications.map notificationLine

def text (r : Report) : String := String.join (r.lines.map (· ++ "\n"))

def jsonText (r : Report) : String := r.toJson.pretty 0 ++ "\n"

end Report

end CaretSql
