import CaretSql.Fault
import CaretSql.Session
import CaretSql.Engine.Scripted

/-! A query pane at work: a session, the executions that it has started, and the queues between
them. The session and the executions are jobs that run in the order in which they were woken, each
until it has to wait. The session takes all waiting commands before it looks at an outcome; an
execution looks at its cancellation before it goes on. -/

namespace CaretSql

/-- How far an execution has come. -/
inductive Phase
  | spawned
  | atGate
  /-- let through, on a permit of its own if the engine is gated -/
  | admitted
  | answered (outcome : Outcome)

structure Execution where
  run : Run
  phase : Phase

inductive Job
  | session
  | execution (id : Nat)
deriving DecidableEq, Repr

structure Pane where
  controller : Controller
  engine : Scripted.Engine
  rowLimit : Nat
  /-- what the clock shows -/
  now : Nat
  commands : List Command := []
  outcomes : List (Nat × Outcome) := []
  /-- the executions that have not ended -/
  executions : List Execution := []
  /-- the jobs that were woken, first to run first -/
  ready : List Job := []
  /-- has the session not ended yet? -/
  alive : Bool := true
  /-- can commands still come? -/
  attached : Bool := true
  /-- does anyone see the events? -/
  observed : Bool := true
  events : List Event := []

namespace Pane

/-- A session that has registered its keyboard actions and waits for commands. -/
def openWith (editor : Editor) (feed : Feed) (engine : Scripted.Engine) (rowLimit now : Nat) : Pane :=
  { controller := ({ editor, feed } : Controller).registerActions, engine, rowLimit, now }

def wake (job : Job) (p : Pane) : Pane :=
  if job ∈ p.ready then p else { p with ready := p.ready ++ [job] }

def publish (events : List Event) (p : Pane) : Pane :=
  if p.observed then { p with events := p.events ++ events } else p

def execution? (id : Nat) (p : Pane) : Option Execution := p.executions.find? (·.run.id == id)

def setPhase (id : Nat) (phase : Phase) (p : Pane) : Pane :=
  { p with executions := p.executions.map fun x => if x.run.id = id then { x with phase } else x }

def endExecution (id : Nat) (p : Pane) : Pane :=
  { p with executions := p.executions.filter (·.run.id != id) }

/-- Lets the execution that has waited longest through the gate, if there is a permit for it. -/
def admitNext (p : Pane) : Pane :=
  match p.executions.find? (fun x => x.phase matches .atGate) with
  | none => p
  | some x =>
    match p.engine.pass? with
    | none => p
    | some engine => ({ p with engine }.setPhase x.run.id .admitted).wake (.execution x.run.id)

def release (p : Pane) : Pane := { p with engine := p.engine.release }.admitNext

def spawn (run : Run) (p : Pane) : Pane :=
  ({ p with executions := p.executions ++ [⟨run, .spawned⟩] } : Pane).wake (.execution run.id)

/-- Takes over what the controller did with a message: its events, an execution to start, and
the cancellation of a run, which wakes its execution. -/
def follow (before : Controller) (answer : List Event × Controller) (p : Pane) : Pane :=
  let p := { p with controller := answer.2 }.publish answer.1
  let givenUp := answer.2.cancelled.drop before.cancelled.length
  let p := givenUp.foldl (fun p id => p.wake (.execution id)) p
  match answer.1 with
  | .runStarted run :: _ => p.spawn run
  | _ => p

/-- The session ends: what still waits for it is lost. -/
def stop (p : Pane) : Pane :=
  { p.follow p.controller (Session.shutdown p.controller) with
    alive := false, commands := [], outcomes := [] }

def takeCommand (p : Pane) : Pane :=
  match p.commands with
  | [] => p
  | .shutdown :: _ => p.stop
  | command :: rest =>
    { p with commands := rest }.follow p.controller (Session.handle p.controller command)

def takeOutcome (p : Pane) : Pane :=
  match p.outcomes with
  | [] => p
  | (id, outcome) :: rest =>
    { p with outcomes := rest }.follow p.controller (Session.settle p.now id outcome p.controller)

/-- The session runs until it has to wait, or ends because no command can come any more. -/
def runSession (p : Pane) : Pane :=
  let p := Nat.repeat takeCommand p.commands.length p
  if !p.alive then p
  else if !p.attached then p.stop
  else Nat.repeat takeOutcome p.outcomes.length p

def report (id : Nat) (outcome : Outcome) (p : Pane) : Pane :=
  let p := p.endExecution id
  if p.alive then { p with outcomes := p.outcomes ++ [(id, outcome)] }.wake .session else p

def answer (x : Execution) (p : Pane) : Pane :=
  let (outcome, engine) := p.engine.finish p.rowLimit x.run.request.query
  { p with engine }.report x.run.id outcome

/-- An execution gives up; a permit that it did not use goes to the next one waiting. -/
def abandon (x : Execution) (p : Pane) : Pane :=
  let p := p.endExecution x.run.id
  match x.phase with
  | .spawned => p
  | .atGate => { p with engine := p.engine.abandon }
  | .admitted => { p with engine := p.engine.abandon }.release
  | .answered _ => p

/-- An execution runs until it has to wait. -/
def runExecution (id : Nat) (p : Pane) : Pane :=
  match p.execution? id with
  | none => p
  | some x =>
    if id ∈ p.controller.cancelled then p.abandon x
    else match x.phase with
      | .spawned =>
        let engine := p.engine.begin x.run.request.query
        match engine.pass? with
        | some engine => { p with engine }.answer x
        | none => { p with engine }.setPhase id .atGate
      | .atGate => p
      | .admitted => p.answer x
      | .answered outcome => p.report id outcome

def runJob (p : Pane) : Job → Pane
  | .session => p.runSession
  | .execution id => p.runExecution id

/-- Runs the jobs that are ready, and those that they wake, for so many turns. -/
def runJobs : Nat → Pane → Pane
  | 0, p => p
  | turns + 1, p =>
    match p.ready with
    | [] => p
    | job :: rest => runJobs turns ({ p with ready := rest }.runJob job)

/-- More turns than the pane can take before nothing more can happen: a command starts at most
one execution, and an execution is woken at most three times and wakes the session once. -/
def turns (p : Pane) : Nat :=
  8 * (p.commands.length + p.executions.length + p.outcomes.length + p.ready.length + 1)

def settle (p : Pane) : Pane := p.runJobs p.turns

def commandQueueSize : Nat := 32

inductive SendError
  | closed
  | alreadyClosed
deriving DecidableEq, Repr

def SendError.toFault : SendError → Fault
  | .closed => ⟨.session, "Query session closed"⟩
  | .alreadyClosed => ⟨.session, "Query session already closed"⟩

/-- Puts a command into the session's queue; a full queue is waited for. -/
def send (command : Command) (p : Pane) : Except SendError Pane :=
  let p := if p.commands.length < commandQueueSize then p else p.settle
  if p.alive then .ok ({ p with commands := p.commands ++ [command] }.wake .session)
  else .error (if command = .shutdown then .alreadyClosed else .closed)

def detach (p : Pane) : Pane := { p with attached := false }.wake .session

/-- Nobody looks at events any more. -/
def unobserve (p : Pane) : Pane := { p with observed := false }

end Pane

end CaretSql
