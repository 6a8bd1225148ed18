import CaretSql.Proofs.Controller.Edit
import CaretSql.Proofs.Session.Observer

/-! The end of the stream. As long as a session goes on, the last state that its events tell is the one
that it is in. Its end tells none any more: a run that is in flight then is announced as cancelled,
but the state that was told last stays the running one. -/

namespace CaretSql

def Event.state? : Event → Option SessionState
  | .stateChanged state => some state
  | _ => none

/-- the last state that these events tell -/
def lastState? (events : List Event) : Option SessionState :=
  (events.filterMap Event.state?).getLast?

theorem lastState?_cons (event : Event) (events : List Event) :
    lastState? (event :: events) = (lastState? events).or event.state? := by
  unfold lastState?
  cases h : event.state? with
  | none => rw [List.filterMap_cons_none h, Option.or_none]
  | some state =>
    rw [List.filterMap_cons_some h, List.getLast?_cons]
    cases (events.filterMap Event.state?).getLast? <;> rfl

theorem lastState?_append (first second : List Event) :
    lastState? (first ++ second) = (lastState? second).or (lastState? first) := by
  unfold lastState?
  rw [List.filterMap_append, List.getLast?_append]

theorem View.state_watch (v : View) (events : List Event) :
    (v.watch events).state = (lastState? events).getD v.state := by
  induction events generalizing v with
  | nil => rfl
  | cons event events ih =>
    have hsee : (v.see event).state = event.state?.getD v.state := by
      cases event <;> rfl
    rw [lastState?_cons, Option.getD_or, ← hsee]
    exact ih (v.see event)

namespace Session

variable {c : Controller} {messages : List (Nat × Message)}

theorem state_run (hgoing : ∀ m ∈ messages, m.2 ≠ .command .shutdown) :
    (lastState? (run c messages).1).getD c.state = (run c messages).2.state := by
  have h := congrArg View.state (watch_run (c := c) hgoing)
  rwa [View.state_watch] at h

/-- A session that stood still at first has told of the run that is in flight. -/
theorem lastState?_of_running (hgoing : ∀ m ∈ messages, m.2 ≠ .command .shutdown)
    (hidle : c.state = .idle) {flight : Run} (h : (run c messages).2.inFlight = some flight) :
    lastState? (run c messages).1 = some .running := by
  have htold := state_run (c := c) hgoing
  rw [hidle, Controller.state_of_running h, Option.getD_eq_iff] at htold
  exact htold.resolve_right nofun

/-- A session ends with what its shutdown publishes, whatever comes behind. -/
theorem run_ended (hgoing : ∀ m ∈ messages, m.2 ≠ .command .shutdown) (now : Nat)
    (more : List (Nat × Message)) :
    run c (messages ++ (now, .command .shutdown) :: more) =
      ((run c messages).1 ++ (shutdown (run c messages).2).1,
        (shutdown (run c messages).2).2) := by
  rw [run_append hgoing]
  rfl

theorem shutdown_of_idle (h : c.inFlight = none) : shutdown c = ([], c) := by
  unfold shutdown
  rw [Controller.cancel_of_idle h]

theorem shutdown_of_running {flight : Run} (h : c.inFlight = some flight) :
    shutdown c = ([.runCancelled flight.id],
      { c with inFlight := none, cancelled := c.cancelled ++ [flight.id] }) := by
  unfold shutdown
  rw [Controller.cancel_of_running h]

theorem handle_toggleRun_of_running {flight : Run} (h : c.inFlight = some flight) :
    (handle c .toggleRun).1 = [.runCancelled flight.id, .stateChanged .idle] := by
  rw [handle, apply, Controller.toggle_of_running h]
  rfl

/-- When a session has ended, by a shutdown or because nobody is left to send it anything, no run is
in flight in it any more; but the last state that it told is the idle one, or it told none, exactly
if no run was in flight before. A run that was is announced as cancelled, as a toggle would announce
it, but the state that a toggle tells behind that is missing. -/
theorem stream_ends_as_session_stood (e : Editor) (maxHeight : Nat) (heights : HeightEstimates)
    {messages : List (Nat × Message)} (hgoing : ∀ m ∈ messages, m.2 ≠ .command .shutdown) (now : Nat)
    (more : List (Nat × Message)) :
    let c := ({ editor := e, feed := .empty maxHeight heights } : Controller).registerActions
    let stood := (run c messages).2
    let ended := run c (messages ++ (now, .command .shutdown) :: more)
    ended.2.state = .idle ∧
      ((lastState? ended.1).getD .idle = .idle ↔ stood.inFlight = none) ∧
      ∀ flight, stood.inFlight = some flight →
        ended.1 = (run c messages).1 ++ [.runCancelled flight.id] ∧
        lastState? ended.1 = some .running ∧
        (handle stood .toggleRun).1 = [.runCancelled flight.id, .stateChanged .idle] := by
  intro c stood ended
  have hended : ended = ((run c messages).1 ++ (shutdown stood).1, (shutdown stood).2) :=
    run_ended hgoing now more
  rcases Option.eq_none_or_eq_some stood.inFlight with hidle | ⟨flight, hflight⟩
  · have htold : (lastState? (run c messages).1).getD .idle = .idle :=
      (state_run hgoing).trans (Controller.state_of_idle hidle)
    rw [shutdown_of_idle hidle, List.append_nil] at hended
    rw [hended, hidle]
    exact ⟨Controller.state_of_idle hidle, iff_of_true htold rfl, nofun⟩
  · have htold : lastState? ((run c messages).1 ++ [.runCancelled flight.id]) = some .running := by
      rw [lastState?_append, lastState?_of_running hgoing rfl hflight]
      rfl
    rw [shutdown_of_running hflight] at hended
    rw [hended, hflight]
    refine ⟨rfl, iff_of_false ?_ nofun, ?_⟩
    · rw [htold]
      nofun
    · rintro _ ⟨⟩
      exact ⟨rfl, htold, handle_toggleRun_of_running hflight⟩

/-- The second of two runs is in flight at the end. -/
theorem stream_ends_as_session_stood_second_run :
    let c := ({ editor := { text := ['1'] }, feed := .empty 500 ⟨145, 70⟩ } :
      Controller).registerActions
    let messages : List (Nat × Message) :=
      [(0, .command .toggleRun), (4, .outcome 1 (.ok (.ddl ['1']))), (0, .command .toggleRun)]
    (∀ m ∈ messages, m.2 ≠ .command .shutdown) ∧
      lastState? (run c (messages ++ [(0, .command .shutdown)])).1 = some .running ∧
      (run c (messages ++ [(0, .command .shutdown)])).1.getLast? = some (.runCancelled 2) := by
  intro c messages
  have hgoing : ∀ m ∈ messages, m.2 ≠ .command .shutdown := by simp [messages]
  obtain ⟨-, -, hrunning⟩ :=
    stream_ends_as_session_stood { text := ['1'] } 500 ⟨145, 70⟩ hgoing 0 []
  obtain ⟨hevents, hlast, -⟩ := hrunning ⟨2, ⟨['1'], 1, 0⟩⟩ (by decide +kernel)
  exact ⟨hgoing, hlast, by rw [hevents, List.getLast?_concat]⟩

/-- A session that is shut down during its only run never tells that it is idle. -/
theorem shutdown_leaves_running_told :
    ¬ ∀ (e : Editor) (maxHeight : Nat) (heights : HeightEstimates)
      (messages : List (Nat × Message)) (now : Nat),
      let c := ({ editor := e, feed := .empty maxHeight heights } : Controller).registerActions
      (lastState? (run c (messages ++ [(now, .command .shutdown)])).1).getD .idle = .idle := by
  intro h
  exact absurd (h { text := ['1'] } 500 ⟨145, 70⟩ [(0, .command .toggleRun)] 0) (by decide +kernel)

end Session

end CaretSql
