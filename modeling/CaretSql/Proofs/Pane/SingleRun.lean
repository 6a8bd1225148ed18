import CaretSql.Proofs.Pane.Deed
import CaretSql.Proofs.Session.Stream

/-! One run at a pane where nothing is going on. The session takes the command and starts an
execution, the execution asks the engine and reports, and the session takes the outcome; the engine is
asked once if there is a statement to run, and not at all if there is none. -/

namespace CaretSql

theorem Scripted.Engine.outcome_begin (query : List Char) (e : Scripted.Engine) :
    (e.begin query).outcome = e.outcome := rfl

namespace Pane

variable {p q : Pane} {run : Run} {job : Job} {rest : List Job} {c : Controller}

theorem runJobs_cons (h : p.ready = job :: rest) (turns : Nat) :
    p.runJobs (turns + 1) = ({ p with ready := rest }.runJob job).runJobs turns := by
  rw [runJobs, h]

theorem runJobs_nil (h : p.ready = []) (turns : Nat) : p.runJobs turns = p := by
  cases turns with
  | zero => rfl
  | succ turns => rw [runJobs, h]

/-- Nothing waits or is under way at the pane, and its engine lets every execution through. -/
structure AtRest (p : Pane) : Prop where
  alive : p.alive = true
  attached : p.attached = true
  observed : p.observed = true
  commands : p.commands = []
  outcomes : p.outcomes = []
  executions : p.executions = []
  ready : p.ready = []
  idle : p.controller.inFlight = none
  kept : p.controller.issued + 1 ∉ p.controller.cancelled
  ungated : p.engine.permits = none

theorem atRest_openWith (e : Editor) (f : Feed) {engine : Scripted.Engine} (h : engine.permits = none)
    (rowLimit now : Nat) : AtRest (openWith e f engine rowLimit now) :=
  ⟨rfl, rfl, rfl, rfl, rfl, rfl, rfl, rfl, List.not_mem_nil, h⟩

theorem AtRest.send_eq (h : AtRest p) (command : Command) :
    p.send command = .ok { p with commands := [command], ready := [.session] } := by
  unfold send wake
  simp [h.commands, h.ready, h.alive, commandQueueSize]

/-- Following an answer that cancels nothing and starts nothing only publishes it. -/
theorem follow_quiet (events : List Event) (hobserved : p.observed = true)
    (hcancelled : c.cancelled = p.controller.cancelled)
    (hquiet : ∀ run rest, events ≠ .runStarted run :: rest) :
    p.follow p.controller (events, c) = { p with controller := c, events := p.events ++ events } := by
  unfold follow publish
  simp only [hobserved, if_true, hcancelled, List.drop_length, List.foldl_nil]

theorem follow_started (run : Run) (events : List Event) (hobserved : p.observed = true)
    (hready : p.ready = []) (hcancelled : c.cancelled = p.controller.cancelled) :
    p.follow p.controller (.runStarted run :: events, c) =
      { p with
        controller := c
        events := p.events ++ .runStarted run :: events
        executions := p.executions ++ [⟨run, .spawned⟩]
        ready := [.execution run.id] } := by
  unfold follow publish spawn wake
  simp [hobserved, hcancelled, hready]

def started (c : Controller) (run : Run) (p : Pane) : Pane :=
  { p with
    controller := c
    events := p.events ++ [.runStarted run, .stateChanged .running]
    executions := [⟨run, .spawned⟩]
    ready := [.execution run.id] }

def answered (c : Controller) (run : Run) (p : Pane) : Pane :=
  { p with
    controller := c
    events := p.events ++ [.runStarted run, .stateChanged .running]
    engine := ((p.engine.begin run.request.query).finish p.rowLimit run.request.query).2
    outcomes := [(run.id, p.engine.outcome p.rowLimit run.request.query)]
    ready := [.session] }

def closed (c : Controller) (run : Run) (p : Pane) : Pane :=
  let done := Session.settle p.now run.id (p.engine.outcome p.rowLimit run.request.query) c
  { p with
    controller := done.2
    events := p.events ++ [.runStarted run, .stateChanged .running] ++ done.1
    engine := ((p.engine.begin run.request.query).finish p.rowLimit run.request.query).2 }

theorem AtRest.start_turn (h : AtRest p) (htoggle : p.controller.toggle = (.execute run, c))
    (hcancelled : c.cancelled = p.controller.cancelled) :
    { p with commands := [.toggleRun], ready := [] }.runSession = p.started c run := by
  have hfollow := follow_started (p := { p with commands := [], ready := [] }) run
    [.stateChanged .running] h.observed rfl hcancelled
  unfold runSession
  simp only [List.length_cons, List.length_nil, Nat.repeat, takeCommand, Session.handle, htoggle,
    Session.apply, Session.directiveEvents, hfollow]
  simp [h.alive, h.attached, h.outcomes, h.commands, h.executions, started, Nat.repeat]

theorem AtRest.idle_turn (h : AtRest p) (htoggle : p.controller.toggle = (.nothing, c))
    (hcancelled : c.cancelled = p.controller.cancelled) :
    { p with commands := [.toggleRun], ready := [] }.runSession =
      { p with controller := c, events := p.events ++ [.stateChanged .idle] } := by
  have hfollow := follow_quiet (p := { p with commands := [], ready := [] })
    [.stateChanged .idle] h.observed hcancelled (by simp)
  unfold runSession
  simp only [List.length_cons, List.length_nil, Nat.repeat, takeCommand, Session.handle, htoggle,
    Session.apply, Session.directiveEvents, hfollow]
  simp [h.alive, h.attached, h.outcomes, h.commands, h.ready, Nat.repeat]

theorem AtRest.execution_turn (h : AtRest p) (hkept : run.id ∉ c.cancelled) :
    { p.started c run with ready := [] }.runExecution run.id = p.answered c run := by
  have hpass : (p.engine.begin run.request.query).pass? = some (p.engine.begin run.request.query) := by
    simp [Scripted.Engine.pass?, Scripted.Engine.begin, h.ungated]
  unfold runExecution execution?
  simp [started, answered, hkept, hpass, answer, report, endExecution, wake, h.alive, h.outcomes,
    h.executions, Scripted.Engine.finish, Scripted.Engine.outcome_begin]

theorem quiet_settle (c : Controller) (now id : Nat) (outcome : Outcome) :
    (Session.settle now id outcome c).2.cancelled = c.cancelled ∧
      ∀ run rest, (Session.settle now id outcome c).1 ≠ .runStarted run :: rest := by
  unfold Session.settle
  rcases c.complete_cases now id outcome with ⟨-, hc⟩ | ⟨run, completion, e, -, -, hc⟩
  · rw [hc]
    exact ⟨rfl, nofun⟩
  · rw [hc]
    refine ⟨rfl, ?_⟩
    cases completion <;> nofun

theorem AtRest.outcome_turn (h : AtRest p) (run : Run) (c : Controller) :
    { p.answered c run with ready := [] }.runSession = p.closed c run := by
  obtain ⟨hcancelled, hquiet⟩ :=
    quiet_settle c p.now run.id (p.engine.outcome p.rowLimit run.request.query)
  have hfollow := follow_quiet (p := { p.answered c run with outcomes := [], ready := [] })
    _ h.observed hcancelled hquiet
  dsimp only [answered] at hfollow
  unfold runSession
  simp only [answered, h.commands, List.length_nil, Nat.repeat, h.alive, h.attached, Bool.not_true,
    Bool.false_eq_true, if_false, List.length_cons, takeOutcome]
  rw [h.commands, h.alive, h.attached] at hfollow
  rw [hfollow]
  simp [closed, h.outcomes, h.ready, h.commands, h.alive, h.attached]

/-- Without a statement to run the session alone has a turn, and says that it is idle. -/
theorem AtRest.settle_of_nothing (h : AtRest p) (hsend : p.send .toggleRun = .ok q)
    (htoggle : p.controller.toggle = (.nothing, c)) (hcancelled : c.cancelled = p.controller.cancelled) :
    q.settle = { p with controller := c, events := p.events ++ [.stateChanged .idle] } := by
  rw [h.send_eq] at hsend
  obtain rfl := Except.ok.inj hsend
  have hturns : turns { p with commands := [.toggleRun], ready := [.session] } = 23 + 1 := by
    simp [turns, h.executions, h.outcomes]
  rw [settle, hturns, runJobs_cons rfl, runJob, h.idle_turn htoggle hcancelled]
  apply runJobs_nil
  exact h.ready

/-- With a statement to run the session, its execution and the session again have a turn. -/
theorem AtRest.settle_of_execute (h : AtRest p) (hsend : p.send .toggleRun = .ok q)
    (htoggle : p.controller.toggle = (.execute run, c))
    (hcancelled : c.cancelled = p.controller.cancelled) (hkept : run.id ∉ c.cancelled) :
    q.settle = p.closed c run := by
  rw [h.send_eq] at hsend
  obtain rfl := Except.ok.inj hsend
  have hturns : turns { p with commands := [.toggleRun], ready := [.session] } = 21 + 1 + 1 + 1 := by
    simp [turns, h.executions, h.outcomes]
  rw [settle, hturns, runJobs_cons rfl, runJob, h.start_turn htoggle hcancelled, runJobs_cons rfl,
    runJob, h.execution_turn hkept, runJobs_cons rfl, runJob, h.outcome_turn]
  apply runJobs_nil
  exact h.ready

end Pane

end CaretSql
