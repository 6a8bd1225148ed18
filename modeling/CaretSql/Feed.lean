import CaretSql.Word
import CaretSql.Duration

/-! The notification feed: one record per outcome, newest first, within a budget of height. What
does not fit any more is dropped from the oldest end. -/

namespace CaretSql

inductive NotificationKind
  | success
  | error
  | info
deriving DecidableEq, Repr

inductive NotificationDetail
  | summary (rowCount : Nat) (timings : Option Timings)
  | message (text : String)
deriving DecidableEq, Repr

namespace NotificationDetail

def display : NotificationDetail → String
  | .summary rowCount timings =>
    toString rowCount ++ (if rowCount = 1 then " row" else " rows") ++
      match timings with
      | none => ""
      | some t => " (" ++ t.display ++ ")"
  | .message text => text

end NotificationDetail

structure Notification where
  id : Nat
  kind : NotificationKind
  height : Nat
  title : String
  detail : Option NotificationDetail
deriving DecidableEq, Repr

structure HeightEstimates where
  success : Nat
  plain : Nat
deriving DecidableEq, Repr

namespace HeightEstimates

def forKind (h : HeightEstimates) : NotificationKind → Nat
  | .success => h.success
  | .error | .info => h.plain

end HeightEstimates

def Notification.totalHeight (ns : List Notification) : Nat :=
  ns.foldr (fun n total => n.height + total) 0

structure FeedState where
  notifications : List Notification
  maxHeight : Nat
deriving DecidableEq, Repr

namespace FeedState

def totalHeight (s : FeedState) : Nat := Notification.totalHeight s.notifications

end FeedState

structure Feed where
  state : FeedState
  heights : HeightEstimates
  /-- no id handed out or added so far is larger -/
  lastId : Nat
deriving DecidableEq, Repr

namespace Feed

def empty (maxHeight : Nat) (heights : HeightEstimates) : Feed := ⟨⟨[], maxHeight⟩, heights, 0⟩

/-- Drops from the oldest end until at most `keep` are left or the heights fit the budget. -/
def evict (keep budget : Nat) (ns : List Notification) : List Notification :=
  if keep < ns.length ∧ budget < Notification.totalHeight ns then evict keep budget ns.dropLast else ns
termination_by ns.length
decreasing_by simp only [List.length_dropLast]; omega

/-- The newest notification stays even if it does not fit. -/
def add (n : Notification) (f : Feed) : Feed :=
  { f with
    lastId := max f.lastId n.id
    state := { f.state with notifications := evict 1 f.state.maxHeight (n :: f.state.notifications) } }

/-- The present time in milliseconds, unless an id at least as late is taken already. -/
def nextId (now : Nat) (f : Feed) : Nat := max now (f.lastId + 1)

/-- Adds a notification with an id and a height of the feed's choice, and tells the id. -/
def notify (now : Nat) (kind : NotificationKind) (title : String)
    (detail : Option NotificationDetail) (f : Feed) : Nat × Feed :=
  let id := f.nextId now
  (id, { f with lastId := id }.add ⟨id, kind, f.heights.forKind kind, title, detail⟩)

/-- `notify` for a feed to which any id may have been added: the last word is followed by none. -/
def checkedNotify (now : Nat) (kind : NotificationKind) (title : String)
    (detail : Option NotificationDetail) (f : Feed) : Except Overflow (Nat × Feed) :=
  if f.lastId + 1 < wordSize then .ok (f.notify now kind title detail) else .error ⟨⟩

/-- Even the newest notification goes if it exceeds the new budget. -/
def setMaxHeight (maxHeight : Nat) (f : Feed) : Feed :=
  { f with state := ⟨evict 0 maxHeight f.state.notifications, maxHeight⟩ }

/-- Ids that no notification has are ignored. -/
def remove (id : Nat) (f : Feed) : Feed :=
  { f with state := { f.state with notifications := f.state.notifications.filter (·.id != id) } }

def clear (f : Feed) : Feed := { f with state := { f.state with notifications := [] } }

end Feed

end CaretSql
