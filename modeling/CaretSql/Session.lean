import CaretSql.Controller

/-! A session: a controller that takes commands and the outcomes of its runs one at a time and
publishes what happens as events. Which message comes when is decided outside. -/

namespace CaretSql

inductive Command
  /-- run the statement at the caret, or cancel the run in flight -/
  | toggleRun
  | runQuery (text : List Char)
  | appendAndRun (text : List Char)
  /-- publish the link of a query, or of the statement at the caret -/
  | exportLink (query : Option (List Char))
  | insertText (text : List Char)
  | focus
  | loadPreferences
  | savePreferences
  | setText (text : List Char)
  | setMaxHeight (height : Nat)
  | removeNotification (id : Nat)
  | clearNotifications
  | action (action : EditorAction)
  /-- cancel the run in flight and end the session -/
  | shutdown
deriving DecidableEq, Repr

inductive Event
  | stateChanged (state : SessionState)
  | runStarted (run : Run)
  | runCancelled (id : Nat)
  | resultReady (id : Nat) (result : QueryResult)
  | errorLocated (id : Nat) (location : ErrorLocation) (message : String)
  | feedChanged (feed : FeedState)
  | exportRequested (url : List Char)
  /-- the grid of results should take the keyboard -/
  | focusGrid
deriving DecidableEq, Repr

inductive Message
  | command (command : Command)
  | outcome (id : Nat) (outcome : Outcome)

namespace Session

def directiveEvents : Directive → List Event
  | .nothing => [.stateChanged .idle]
  | .execute run => [.runStarted run, .stateChanged .running]
  | .cancelled id => [.runCancelled id, .stateChanged .idle]

def apply (answer : Directive × Controller) : List Event × Controller :=
  (directiveEvents answer.1, answer.2)

def showFeed (c : Controller) : List Event × Controller := ([.feedChanged c.feed.state], c)

/-- The end of a session cancels the run in flight. -/
def shutdown (c : Controller) : List Event × Controller :=
  match c.cancel with
  | (some id, c) => ([.runCancelled id], c)
  | (none, c) => ([], c)

def handle (c : Controller) : Command → List Event × Controller
  | .toggleRun => apply c.toggle
  | .runQuery s => apply (c.runQuery s)
  | .appendAndRun s => apply (c.appendAndRun s)
  | .exportLink query => ((c.exportLink? query).toList.map .exportRequested, c)
  | .insertText s => ([], c.insertText s)
  | .focus => ([], c.focusEditor)
  | .loadPreferences => ([], c.loadPreferences)
  | .savePreferences => ([], c.savePreferences)
  | .setText s => ([], c.setText s)
  | .setMaxHeight h => showFeed (c.setMaxHeight h)
  | .removeNotification id => showFeed (c.removeNotification id)
  | .clearNotifications => showFeed c.clearNotifications
  | .action a => if a.togglesRun then apply c.toggle else ([.focusGrid], c)
  | .shutdown => shutdown c

def completionEvents (id : Nat) (feed : FeedState) : Completion → List Event
  | .succeeded result _ => [.resultReady id result, .feedChanged feed, .stateChanged .idle]
  | .failed failure location _ =>
    [.errorLocated id location failure.message, .feedChanged feed, .stateChanged .idle]

/-- Takes the outcome of a run in; a discarded one is passed over in silence. -/
def settle (now id : Nat) (outcome : Outcome) (c : Controller) : List Event × Controller :=
  match c.complete now id outcome with
  | (none, c) => ([], c)
  | (some completion, c) => (completionEvents id c.feed.state completion, c)

def receive (now : Nat) (c : Controller) : Message → List Event × Controller
  | .command command => handle c command
  | .outcome id outcome => settle now id outcome c

end Session

end CaretSql
