import CaretSql.Editor
import CaretSql.ErrorLocation
import CaretSql.QueryResult
import CaretSql.Feed
import CaretSql.Text.Form

/-! The controller of a query pane: one editor, one feed and at most one run in flight. Its
operations are plain functions; the clock is read outside and handed in, in milliseconds. -/

namespace CaretSql

structure Run where
  id : Nat
  request : Request
deriving DecidableEq, Repr

inductive SessionState
  | idle
  | running
deriving DecidableEq, Repr

inductive Directive
  /-- there is no statement at the caret -/
  | nothing
  | execute (run : Run)
  | cancelled (id : Nat)
deriving DecidableEq, Repr

inductive Completion
  | succeeded (result : QueryResult) (notification : Nat)
  | failed (failure : EngineFailure) (location : ErrorLocation) (notification : Nat)
deriving DecidableEq, Repr

structure Controller where
  editor : Editor
  feed : Feed
  inFlight : Option Run := none
  /-- how many runs were issued; their ids count from 1 -/
  issued : Nat := 0
  /-- the runs that the engine was told to give up -/
  cancelled : List Nat := []
deriving DecidableEq, Repr

namespace Controller

def state (c : Controller) : SessionState := if c.inFlight.isSome then .running else .idle

def currentRequest (c : Controller) : Option Request := c.inFlight.map (·.request)

def registerActions (c : Controller) : Controller :=
  { c with editor := EditorAction.all.foldl Editor.registerAction c.editor }

/-- Cancels and forgets the run in flight, and tells its id. -/
def cancel (c : Controller) : Option Nat × Controller :=
  match c.inFlight with
  | none => (none, c)
  | some run => (some run.id, { c with inFlight := none, cancelled := c.cancelled ++ [run.id] })

/-- Starts a run of the statement at the caret; every attempt clears the markers and saves the
preferences. -/
def start (c : Controller) : Directive × Controller :=
  let editor := c.editor.clearMarkers.savePreferences
  match Request.extract? editor.document editor.anchor with
  | none => (.nothing, { c with editor })
  | some request =>
    let run : Run := ⟨c.issued + 1, request⟩
    (.execute run, { c with editor, inFlight := some run, issued := c.issued + 1 })

def toggle (c : Controller) : Directive × Controller :=
  match c.cancel with
  | (some id, c) => (.cancelled id, c)
  | (none, c) => c.start

def announce (r : QueryResult) : NotificationKind × Option NotificationDetail :=
  match r.kind with
  | .dql => (.success, some (.summary r.rowCount r.timings))
  | .ddl => (.info, none)

/-- Records the outcome of a run. The outcome of any run but the one in flight is discarded. -/
def complete (now id : Nat) (outcome : Outcome) (c : Controller) : Option Completion × Controller :=
  match c.inFlight with
  | none => (none, c)
  | some run =>
    if run.id ≠ id then (none, c)
    else
      let title := String.ofList run.request.query
      match outcome with
      | .ok result =>
        let (kind, detail) := announce result
        let (notification, feed) := c.feed.notify now kind title detail
        (some (.succeeded result notification), { c with feed, inFlight := none })
      | .error failure =>
        let location := ErrorLocation.locate c.editor.document run.request failure.offset
        let editor := c.editor.addMarker location.span |>.moveCaret location.position
          |>.scrollToRow location.position.row |>.focus
        let (notification, feed) :=
          c.feed.notify now .error title (some (.message failure.message))
        (some (.failed failure location notification), { c with editor, feed, inFlight := none })

/-- Selects the text in single quotes, if it occurs, and toggles a run. -/
def runQuery (s : List Char) (c : Controller) : Directive × Controller :=
  { c with editor := (c.editor.find ('\'' :: s ++ ['\''])).2 }.toggle

/-- Appends a statement on a line of its own, selects the last line and toggles a run. -/
def appendAndRun (s : List Char) (c : Controller) : Directive × Controller :=
  let editor := c.editor.append ('\n' :: s ++ [';'])
  let document := editor.document
  { c with editor := editor.select (document.lineRange document.lineCount) }.toggle

def exportPath : List Char := "/exp".toList

/-- The link under which a query, or else the statement at the caret, is exported. -/
def exportLink? (query : Option (List Char)) (c : Controller) : Option (List Char) := do
  let query ← query.or
    ((Request.extract? c.editor.document c.editor.anchor).map (·.query))
  return exportPath ++ '?' :: Text.Form.encodePair "query".toList query

def insertText (s : List Char) (c : Controller) : Controller :=
  { c with editor := (c.editor.insert s).focus }

def focusEditor (c : Controller) : Controller :=
  { c with editor := (c.editor.scrollToRow c.editor.caret.row).focus }

def loadPreferences (c : Controller) : Controller := { c with editor := c.editor.loadPreferences }

def savePreferences (c : Controller) : Controller := { c with editor := c.editor.savePreferences }

/-- An empty text is ignored. -/
def setText (s : List Char) (c : Controller) : Controller :=
  if s.isEmpty then c else { c with editor := c.editor.setText s }

def setMaxHeight (h : Nat) (c : Controller) : Controller := { c with feed := c.feed.setMaxHeight h }

def removeNotification (id : Nat) (c : Controller) : Controller :=
  { c with feed := c.feed.remove id }

def clearNotifications (c : Controller) : Controller := { c with feed := c.feed.clear }

end Controller

end CaretSql
