import CaretSql.Pane

/-! What happens at a pane from outside, and what lasts through all of it. A property of panes lasts if
it survives the few things that its session and its executions do in one turn, and does not depend on
the engine or on whose turn is next. -/

namespace CaretSql.Pane

/-- A pane without its executions, their engine and the turns that they wait for. -/
structure Desk where
  controller : Controller
  events : List Event
  alive : Bool
  observed : Bool
  commands : List Command
  outcomes : List (Nat × Outcome)

def desk (p : Pane) : Desk where
  controller := p.controller
  events := p.events
  alive := p.alive
  observed := p.observed
  commands := p.commands
  outcomes := p.outcomes

/-- the runs whose executions have not ended -/
def runs (p : Pane) : List Run := p.executions.map (·.run)

namespace Desk

def take (d : Desk) (answer : List Event × Controller) : Desk :=
  { d with
    controller := answer.2, events := if d.observed then d.events ++ answer.1 else d.events }

def close (d : Desk) : Desk := { d with alive := false, commands := [], outcomes := [] }

end Desk

variable {P : Pane → Prop} {p q : Pane} {x : Execution} {id : Nat}

theorem desk_wake (job : Job) (p : Pane) : (p.wake job).desk = p.desk := by
  unfold wake
  split <;> rfl

theorem runs_wake (job : Job) (p : Pane) : (p.wake job).runs = p.runs := by
  unfold wake
  split <;> rfl

theorem desk_wakes (ids : List Nat) (p : Pane) :
    (ids.foldl (fun p id => p.wake (.execution id)) p).desk = p.desk := by
  induction ids generalizing p with
  | nil => rfl
  | cons id ids ih => rw [List.foldl_cons, ih, desk_wake]

theorem runs_wakes (ids : List Nat) (p : Pane) :
    (ids.foldl (fun p id => p.wake (.execution id)) p).runs = p.runs := by
  induction ids generalizing p with
  | nil => rfl
  | cons id ids ih => rw [List.foldl_cons, ih, runs_wake]

theorem desk_publish (events : List Event) (p : Pane) (c : Controller) :
    (publish events { p with controller := c }).desk = p.desk.take (events, c) := by
  unfold publish Desk.take desk
  split <;> rfl

theorem runs_publish (events : List Event) (p : Pane) : (p.publish events).runs = p.runs := by
  unfold publish
  split <;> rfl

theorem runs_setPhase (id : Nat) (phase : Phase) (p : Pane) : (p.setPhase id phase).runs = p.runs := by
  unfold setPhase runs
  rw [List.map_map]
  refine List.map_congr_left fun x _ => ?_
  rw [Function.comp_apply]
  split <;> rfl

theorem desk_admitNext (p : Pane) : p.admitNext.desk = p.desk := by
  unfold admitNext
  split
  · rfl
  · split
    · rfl
    · exact desk_wake _ _

theorem runs_admitNext (p : Pane) : p.admitNext.runs = p.runs := by
  unfold admitNext
  split
  · rfl
  · split
    · rfl
    · rw [runs_wake, runs_setPhase]
      rfl

theorem desk_release (p : Pane) : p.release.desk = p.desk := desk_admitNext _

theorem runs_release (p : Pane) : p.release.runs = p.runs := runs_admitNext _

theorem desk_spawn (run : Run) (p : Pane) : (p.spawn run).desk = p.desk := desk_wake _ _

theorem runs_spawn (run : Run) (p : Pane) : (p.spawn run).runs = p.runs ++ [run] := by
  unfold spawn
  rw [runs_wake]
  exact List.map_append

/-- Following the session touches the desk only where the session's answer does. -/
theorem desk_follow (before : Controller) (answer : List Event × Controller) (p : Pane) :
    (p.follow before answer).desk = p.desk.take answer := by
  unfold follow
  dsimp only
  split
  · rw [desk_spawn, desk_wakes, desk_publish]
  · rw [desk_wakes, desk_publish]

theorem desk_stop (p : Pane) :
    p.stop.desk = (p.desk.take (Session.shutdown p.controller)).close :=
  congrArg Desk.close (desk_follow p.controller (Session.shutdown p.controller) p)

theorem length_takeCommand (p : Pane) : p.takeCommand.commands.length ≤ p.commands.length - 1 := by
  unfold takeCommand
  split
  · next heq => simp [heq]
  · exact Nat.zero_le _
  · next command rest _ heq =>
    have hcommands := congrArg Desk.commands
      (desk_follow p.controller (Session.handle p.controller command) { p with commands := rest })
    change _ = rest at hcommands
    show (desk _).commands.length ≤ _
    rw [hcommands, heq]
    exact Nat.le_refl _

theorem length_takeCommands (p : Pane) (n : Nat) :
    (Nat.repeat takeCommand n p).commands.length ≤ p.commands.length - n := by
  induction n with
  | zero => exact Nat.le_refl _
  | succ n ih =>
    have hturn := length_takeCommand (Nat.repeat takeCommand n p)
    show (takeCommand _).commands.length ≤ _
    omega

theorem takeCommands_nil (p : Pane) :
    (Nat.repeat takeCommand p.commands.length p).commands = [] := by
  have hlength := length_takeCommands p p.commands.length
  rw [Nat.sub_self] at hlength
  exact List.length_eq_zero_iff.mp (Nat.le_zero.mp hlength)

theorem alive_takeOutcome (p : Pane) : p.takeOutcome.alive = p.alive := by
  unfold takeOutcome
  split
  · rfl
  · exact congrArg Desk.alive (desk_follow _ _ _)

theorem execution?_eq_some (h : p.execution? id = some x) : x ∈ p.executions ∧ x.run.id = id :=
  ⟨List.mem_of_find?_eq_some h, by simpa using List.find?_some h⟩

/-- What happens at a pane from outside. -/
inductive Deed
  | send (command : Command)
  | settle
  | release
  | detach
  | unobserve
  /-- the clock shows another time -/
  | tick (now : Nat)

/-- A command that is refused changes nothing. -/
def deed (p : Pane) : Deed → Pane
  | .send command =>
    match p.send command with
    | .ok p => p
    | .error _ => p
  | .settle => p.settle
  | .release => p.release
  | .detach => p.detach
  | .unobserve => p.unobserve
  | .tick now => { p with now }

structure Lasting (P : Pane → Prop) : Prop where
  frame : ∀ {p q}, P p → q.desk = p.desk → q.runs = p.runs → P q
  given : ∀ {p} command, P p → p.alive = true → P { p with commands := p.commands ++ [command] }
  takeCommand : ∀ {p}, P p → P p.takeCommand
  takeOutcome : ∀ {p}, P p → p.alive = true → P p.takeOutcome
  /-- no command can come any more -/
  stop : ∀ {p}, P p → p.alive = true → p.commands = [] → P p.stop
  report : ∀ {p x} outcome, P p → x ∈ p.executions → x.run.id ∉ p.controller.cancelled →
    P (p.report x.run.id outcome)
  endExecution : ∀ {p x}, P p → x ∈ p.executions → x.run.id ∈ p.controller.cancelled →
    P (p.endExecution x.run.id)
  unobserve : ∀ {p}, P p → P p.unobserve

namespace Lasting

theorem wake (hP : Lasting P) (h : P p) (job : Job) : P (p.wake job) :=
  hP.frame h (desk_wake job p) (runs_wake job p)

theorem release (hP : Lasting P) (h : P p) : P p.release :=
  hP.frame h (desk_release p) (runs_release p)

theorem takeCommands (hP : Lasting P) (h : P p) (n : Nat) :
    P (Nat.repeat Pane.takeCommand n p) := by
  induction n with
  | zero => exact h
  | succ n ih => exact hP.takeCommand ih

theorem takeOutcomes (hP : Lasting P) (h : P p) (halive : p.alive = true) (n : Nat) :
    P (Nat.repeat Pane.takeOutcome n p) ∧ (Nat.repeat Pane.takeOutcome n p).alive = true := by
  induction n with
  | zero => exact ⟨h, halive⟩
  | succ n ih => exact ⟨hP.takeOutcome ih.1 ih.2, (alive_takeOutcome _).trans ih.2⟩

theorem runSession (hP : Lasting P) (h : P p) : P p.runSession := by
  have htaken := hP.takeCommands h p.commands.length
  unfold Pane.runSession
  dsimp only
  cases halive : (Nat.repeat Pane.takeCommand p.commands.length p).alive with
  | false => exact htaken
  | true =>
    simp only [Bool.not_true, Bool.false_eq_true, if_false]
    split
    · exact hP.stop htaken halive (takeCommands_nil p)
    · exact (hP.takeOutcomes htaken halive _).1

theorem abandon (hP : Lasting P) (h : P p) (hx : x ∈ p.executions)
    (hcancelled : x.run.id ∈ p.controller.cancelled) : P (p.abandon x) := by
  have hended := hP.endExecution h hx hcancelled
  unfold Pane.abandon
  cases x.phase with
  | spawned | answered => exact hended
  | atGate => exact hP.frame hended rfl rfl
  | admitted => exact hP.frame hended (desk_release _) (runs_release _)

theorem engine (hP : Lasting P) (h : P p) (engine : Scripted.Engine) : P { p with engine } :=
  hP.frame h rfl rfl

theorem answer (hP : Lasting P) (h : P p) (hx : x ∈ p.executions)
    (hlive : x.run.id ∉ p.controller.cancelled) : P (p.answer x) := by
  unfold Pane.answer
  obtain ⟨outcome, engine⟩ := p.engine.finish p.rowLimit x.run.request.query
  exact hP.report outcome (hP.engine h engine) hx hlive

theorem runExecution (hP : Lasting P) (h : P p) (id : Nat) : P (p.runExecution id) := by
  unfold Pane.runExecution
  split
  · exact h
  · next x heq =>
    obtain ⟨hx, rfl⟩ := execution?_eq_some heq
    split
    · next hcancelled => exact hP.abandon h hx hcancelled
    · next hlive =>
      split
      · dsimp only
        split
        · exact hP.answer (hP.engine h _) hx hlive
        · exact hP.frame (hP.engine h _) rfl (runs_setPhase _ _ _)
      · exact h
      · exact hP.answer h hx hlive
      · exact hP.report _ h hx hlive

theorem runJobs (hP : Lasting P) (h : P p) (turns : Nat) : P (p.runJobs turns) := by
  induction turns generalizing p with
  | zero => exact h
  | succ turns ih =>
    unfold Pane.runJobs
    split
    · exact h
    · next job rest _ =>
      have hnext : P { p with ready := rest } := hP.frame h rfl rfl
      apply ih
      cases job with
      | session => exact hP.runSession hnext
      | execution id => exact hP.runExecution hnext id

theorem send (hP : Lasting P) {command : Command} (h : P p) (hsend : p.send command = .ok q) :
    P q := by
  have hready : P (if p.commands.length < commandQueueSize then p else p.settle) := by
    split
    · exact h
    · exact hP.runJobs h _
  unfold Pane.send at hsend
  dsimp only at hsend
  generalize (if p.commands.length < commandQueueSize then p else p.settle) = p' at hsend hready
  split at hsend
  · next halive =>
    obtain rfl := Except.ok.inj hsend
    exact hP.wake (hP.given command hready halive) .session
  · cases hsend

theorem deed (hP : Lasting P) (h : P p) (deed : Deed) : P (p.deed deed) := by
  cases deed with
  | send command =>
    simp only [Pane.deed]
    split
    · next hsend => exact hP.send h hsend
    · exact h
  | settle => exact hP.runJobs h _
  | release => exact hP.release h
  | detach => exact hP.frame h (desk_wake _ _) (runs_wake _ _)
  | unobserve => exact hP.unobserve h
  | tick now => exact hP.frame h rfl rfl

theorem deeds (hP : Lasting P) (h : P p) (deeds : List Deed) : P (deeds.foldl Pane.deed p) := by
  induction deeds generalizing p with
  | nil => exact h
  | cons deed deeds ih => exact ih (hP.deed h deed)

end Lasting

end CaretSql.Pane
