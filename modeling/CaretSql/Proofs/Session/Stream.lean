import CaretSql.Session
import CaretSql.Proofs.Controller.Operation

/-! The event stream of a session: what it publishes about a whole list of messages, and all that
it can do with one of them. -/

namespace CaretSql

open Controller (noticed)

namespace Event

def started? : Event → Option Nat
  | .runStarted run => some run.id
  | _ => none

def settled? : Event → Option Nat
  | .resultReady id _ => some id
  | .errorLocated id _ _ => some id
  | _ => none

def ended? : Event → Option Nat
  | .runCancelled id => some id
  | event => event.settled?

def isRunEvent (event : Event) : Bool := event.started?.isSome || event.ended?.isSome

end Event

namespace Session

/-- What a session publishes about these messages, each with the time at which it is taken in. The
session ends with a shutdown, whatever comes behind; when no command can come any more that is
taken for one. -/
def run (c : Controller) : List (Nat × Message) → List Event × Controller
  | [] => ([], c)
  | (now, .command .shutdown) :: _ => receive now c (.command .shutdown)
  | (now, message) :: rest =>
    let answer := receive now c message
    let onward := run answer.2 rest
    (answer.1 ++ onward.1, onward.2)

theorem run_cons {message : Message} (h : message ≠ .command .shutdown) (c : Controller)
    (now : Nat) (rest : List (Nat × Message)) :
    run c ((now, message) :: rest) =
      ((receive now c message).1 ++ (run (receive now c message).2 rest).1,
        (run (receive now c message).2 rest).2) := by
  rw [run]
  exact h

theorem run_singleton (c : Controller) (now : Nat) (message : Message) :
    run c [(now, message)] = receive now c message := by
  by_cases h : message = .command .shutdown
  · subst h
    rfl
  · rw [run_cons h, run, List.append_nil]

theorem run_append {c : Controller} {messages : List (Nat × Message)}
    (h : ∀ m ∈ messages, m.2 ≠ .command .shutdown) (more : List (Nat × Message)) :
    run c (messages ++ more) =
      ((run c messages).1 ++ (run (run c messages).2 more).1,
        (run (run c messages).2 more).2) := by
  induction messages generalizing c with
  | nil => rfl
  | cons m messages ih =>
    have hm := h m List.mem_cons_self
    rw [List.cons_append, run_cons hm, run_cons hm,
      ih fun m' hm' => h m' (List.mem_cons_of_mem _ hm'), List.append_assoc]

/-- All that a session at `c` can make of a message: the events that it publishes, and the
controller afterwards. -/
inductive Published (c : Controller) : List Event → Controller → Prop
  | edited (e : Editor) : Published c [] { c with editor := e }
  | linked (url : List Char) : Published c [.exportRequested url] c
  | left : Published c [.focusGrid] c
  | fed (f : Feed) : Published c [.feedChanged f.state] { c with feed := f }
  | nothing (e : Editor) (hidle : c.inFlight = none) :
      Published c [.stateChanged .idle] { c with editor := e }
  | started (e : Editor) (request : Request) (hidle : c.inFlight = none) :
      Published c [.runStarted ⟨c.issued + 1, request⟩, .stateChanged .running]
        { c with editor := e, inFlight := some ⟨c.issued + 1, request⟩, issued := c.issued + 1 }
  | cancelled (e : Editor) {run : Run} (hrun : c.inFlight = some run) :
      Published c [.runCancelled run.id, .stateChanged .idle]
        { c with editor := e, inFlight := none, cancelled := c.cancelled ++ [run.id] }
  | settled (e : Editor) {run : Run} {event : Event} (now : Nat) (outcome : Outcome)
      (hrun : c.inFlight = some run) (hevent : event.settled? = some run.id) :
      Published c
        [event, .feedChanged (noticed c.feed now run.request.query outcome).2.state,
          .stateChanged .idle]
        { c with
          editor := e, feed := (noticed c.feed now run.request.query outcome).2
          inFlight := none }
  | closed {run : Run} (hrun : c.inFlight = some run) :
      Published c [.runCancelled run.id]
        { c with inFlight := none, cancelled := c.cancelled ++ [run.id] }

theorem published_toggle (c : Controller) (e : Editor) :
    Published c (apply ({ c with editor := e } : Controller).toggle).1
      (apply ({ c with editor := e } : Controller).toggle).2 := by
  rcases ({ c with editor := e } : Controller).toggle_cases with
    ⟨run, hrun, ht⟩ | ⟨hidle, -, ht⟩ | ⟨hidle, request, -, ht⟩
  · rw [ht]
    exact .cancelled e hrun
  · rw [ht]
    exact .nothing _ hidle
  · rw [ht]
    exact .started _ request hidle

theorem published_shutdown (c : Controller) : Published c (shutdown c).1 (shutdown c).2 := by
  unfold shutdown
  rcases Option.eq_none_or_eq_some c.inFlight with hidle | ⟨run, hrun⟩
  · rw [Controller.cancel_of_idle hidle]
    exact .edited c.editor
  · rw [Controller.cancel_of_running hrun]
    exact .closed hrun

/-- A command to the controller alone is carried out in the editor or in the feed. -/
theorem published_handle (c : Controller) (command : Command) :
    Published c (handle c command).1 (handle c command).2 := by
  cases command with
  | toggleRun => exact published_toggle c c.editor
  | runQuery s => exact published_toggle c _
  | appendAndRun s => exact published_toggle c _
  | exportLink query =>
    simp only [handle]
    cases c.exportLink? query with
    | none => exact .edited c.editor
    | some url => exact .linked url
  | insertText s => exact .edited _
  | focus => exact .edited _
  | loadPreferences => exact .edited _
  | savePreferences => exact .edited _
  | setText s =>
    simp only [handle, Controller.setText]
    split
    · exact .edited c.editor
    · exact .edited _
  | setMaxHeight h => exact .fed _
  | removeNotification id => exact .fed _
  | clearNotifications => exact .fed _
  | action a =>
    simp only [handle]
    split
    · exact published_toggle c c.editor
    · exact .left
  | shutdown => exact published_shutdown c

/-- A command that does not end the session is answered as a toggle is, or without a word on runs. -/
theorem handle_events (c : Controller) {command : Command} (h : command ≠ .shutdown) :
    (∃ directive, (handle c command).1 = directiveEvents directive) ∨
      ∀ event ∈ (handle c command).1, event.isRunEvent = false := by
  cases command with
  | toggleRun | runQuery | appendAndRun => exact Or.inl ⟨_, rfl⟩
  | insertText | focus | loadPreferences | savePreferences | setText => exact Or.inr nofun
  | setMaxHeight | removeNotification | clearNotifications =>
    exact Or.inr (List.forall_mem_singleton.mpr rfl)
  | exportLink query =>
    right
    intro event hevent
    obtain ⟨url, -, rfl⟩ := List.mem_map.mp hevent
    rfl
  | action a =>
    simp only [handle]
    split
    · exact Or.inl ⟨_, rfl⟩
    · exact Or.inr (List.forall_mem_singleton.mpr rfl)
  | shutdown => exact absurd rfl h

theorem completionEvents_eq (id : Nat) (feed : FeedState) (completion : Completion) :
    ∃ event, event.settled? = some id ∧
      completionEvents id feed completion = [event, .feedChanged feed, .stateChanged .idle] := by
  cases completion with
  | succeeded result notification => exact ⟨.resultReady id result, rfl, rfl⟩
  | failed failure location notification =>
    exact ⟨.errorLocated id location failure.message, rfl, rfl⟩

theorem settle_of_discarded {c : Controller} {now id : Nat} {outcome : Outcome}
    (h : (c.complete now id outcome).1 = none) : settle now id outcome c = ([], c) := by
  unfold settle
  rw [Controller.complete_of_none h]

/-- Without the outcomes that are discarded the session would have gone the same way. -/
theorem run_of_discarded {c : Controller} {now id : Nat} {outcome : Outcome}
    {before : List (Nat × Message)} (after : List (Nat × Message))
    (h : ((run c before).2.complete now id outcome).1 = none) :
    run c (before ++ (now, .outcome id outcome) :: after) = run c (before ++ after) := by
  fun_induction run c before with
  | case1 c =>
    have hsettle : receive now c (.outcome id outcome) = ([], c) := settle_of_discarded h
    have hmessage : Message.outcome id outcome ≠ .command .shutdown := by
      intro heq
      cases heq
    rw [List.nil_append, List.nil_append, run_cons hmessage, hsettle, List.nil_append]
  | case2 c time rest => rfl
  | case3 c time message rest hmessage answer onward ih =>
    rw [List.cons_append, List.cons_append, run_cons hmessage, run_cons hmessage, ih h]

theorem published_settle (c : Controller) (now id : Nat) (outcome : Outcome) :
    Published c (settle now id outcome c).1 (settle now id outcome c).2 := by
  rcases c.complete_cases now id outcome with ⟨-, hc⟩ | ⟨run, completion, e, hrun, rfl, hc⟩
  · rw [settle_of_discarded (by rw [hc])]
    exact .edited c.editor
  · obtain ⟨event, hevent, heq⟩ := completionEvents_eq run.id
      (noticed c.feed now run.request.query outcome).2.state completion
    unfold settle
    rw [hc]
    simp only [heq]
    exact .settled e now outcome hrun hevent

theorem published (now : Nat) (c : Controller) (message : Message) :
    Published c (receive now c message).1 (receive now c message).2 := by
  cases message with
  | command command => exact published_handle c command
  | outcome id outcome => exact published_settle c now id outcome

end Session

end CaretSql
