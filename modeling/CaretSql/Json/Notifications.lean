import CaretSql.Feed
import CaretSql.Json.Results

/-! Notifications and the feed as JSON. -/

namespace CaretSql

def Json.height? (j : Json) : Option Nat := j.natBelow? (Nat.pow 2 32)

namespace NotificationKind

def name : NotificationKind → String
  | .success => "success"
  | .error => "error"
  | .info => "info"

def ofName? : String → Option NotificationKind
  | "success" => some .success
  | "error" => some .error
  | "info" => some .info
  | _ => none

def toJson (k : NotificationKind) : Json := .string k.name

def ofJson? (j : Json) : Option NotificationKind := j.choice?.bind ofName?

end NotificationKind

namespace NotificationDetail

def toJson : NotificationDetail → Json
  | .summary rowCount timings => .object [("summary",
      .object [("row_count", .nat rowCount), ("timings", .ofOption Timings.toJson timings)])]
  | .message text => .object [("message", .string text)]

def summaryOfJson? (j : Json) : Option NotificationDetail := do
  let r ← Json.Record.ofJson? false ["row_count", "timings"] j
  return .summary (← r.required "row_count" Json.word?) (← r.optional "timings" Timings.ofJson?)

def ofJson? (j : Json) : Option NotificationDetail :=
  match j.choiceWith? with
  | some ("summary", j) => summaryOfJson? j
  | some ("message", j) => j.string?.map .message
  | _ => none

end NotificationDetail

namespace Notification

def contentJson (n : Notification) : Json :=
  .object [("title", .string n.title), ("detail", .ofOption NotificationDetail.toJson n.detail)]

def toJson (n : Notification) : Json :=
  .object [("id", .nat n.id), ("kind", n.kind.toJson), ("estimated_height", .nat n.height),
    ("content", n.contentJson)]

def contentOfJson? (j : Json) : Option (String × Option NotificationDetail) := do
  let r ← Json.Record.ofJson? false ["title", "detail"] j
  return (← r.required "title" Json.string?, ← r.optional "detail" NotificationDetail.ofJson?)

def ofJson? (j : Json) : Option Notification := do
  let r ← Json.Record.ofJson? false ["id", "kind", "estimated_height", "content"] j
  let id ← r.required "id" Json.word?
  let kind ← r.required "kind" NotificationKind.ofJson?
  let height ← r.required "estimated_height" Json.height?
  let (title, detail) ← r.required "content" contentOfJson?
  return { id, kind, height, title, detail }

end Notification

namespace FeedState

def toJson (s : FeedState) : Json :=
  .object [("notifications", .list Notification.toJson s.notifications),
    ("max_height", .nat s.maxHeight)]

def ofJson? (j : Json) : Option FeedState := do
  let r ← Json.Record.ofJson? false ["notifications", "max_height"] j
  return ⟨← r.required "notifications" (Json.list? Notification.ofJson?),
    ← r.required "max_height" Json.height?⟩

end FeedState

end CaretSql
