import CaretSql.Proofs.Session.Stream
import Mathlib.Data.List.Nodup
import Mathlib.Logic.Relation

/-! What is under way at a session: commands that wait for it, executions that it has started, and
outcomes that wait for it. The session and the executions take their steps in any order. The run in
flight is never without an outcome to come, and never with two of them. -/

namespace CaretSql

inductive Traffic.Stage
  /-- it will look at its cancellation before it goes on -/
  | waiting
  /-- it has seen no cancellation and asks the engine -/
  | asking
  /-- it has its answer, and no eye for a cancellation any more -/
  | reporting (outcome : Outcome)

structure Traffic.Task where
  run : Run
  stage : Stage

structure Traffic where
  controller : Controller
  commands : List Command := []
  tasks : List Traffic.Task := []
  outcomes : List (Nat × Outcome) := []
  /-- the runs whose outcomes were ever put into the queue, oldest first -/
  queued : List Nat := []
  /-- has the session not ended yet? -/
  alive : Bool := true

namespace Traffic

/-- A session that waits for its first command. -/
def opened (e : Editor) (f : Feed) : Traffic :=
  { controller := ({ editor := e, feed := f } : Controller).registerActions }

def begun : List Event → List Task
  | .runStarted run :: _ => [⟨run, .waiting⟩]
  | _ => []

def follow (s : Traffic) (answer : List Event × Controller) : Traffic :=
  { s with controller := answer.2, tasks := s.tasks ++ begun answer.1 }

/-- The session ends: what still waits for it is lost. -/
def close (s : Traffic) : Traffic :=
  { s.follow (Session.shutdown s.controller) with alive := false, commands := [], outcomes := [] }

/-- One thing that can happen next. The engine answers an execution at most once, with whatever
outcome. -/
inductive Step (s : Traffic) : Traffic → Prop
  | given (command : Command) (halive : s.alive = true) :
      Step s { s with commands := s.commands ++ [command] }
  | handled {command : Command} {rest : List Command} (hfirst : s.commands = command :: rest)
      (hgoing : command ≠ .shutdown) (halive : s.alive = true) :
      Step s (follow { s with commands := rest } (Session.handle s.controller command))
  | settled (now : Nat) {id : Nat} {outcome : Outcome} {rest : List (Nat × Outcome)}
      (hfirst : s.outcomes = (id, outcome) :: rest) :
      Step s (follow { s with outcomes := rest } (Session.settle now id outcome s.controller))
  | closed (halive : s.alive = true) (hlast : ∀ command ∈ s.commands.head?, command = .shutdown) :
      Step s s.close
  | resumed {run : Run} {before after : List Task}
      (htasks : s.tasks = before ++ ⟨run, .waiting⟩ :: after)
      (hlive : run.id ∉ s.controller.cancelled) :
      Step s { s with tasks := before ++ ⟨run, .asking⟩ :: after }
  | gaveUp {run : Run} {before after : List Task}
      (htasks : s.tasks = before ++ ⟨run, .waiting⟩ :: after)
      (hcancelled : run.id ∈ s.controller.cancelled) :
      Step s { s with tasks := before ++ after }
  | putOff {run : Run} {before after : List Task}
      (htasks : s.tasks = before ++ ⟨run, .asking⟩ :: after) :
      Step s { s with tasks := before ++ ⟨run, .waiting⟩ :: after }
  | answered {run : Run} {before after : List Task} (outcome : Outcome)
      (htasks : s.tasks = before ++ ⟨run, .asking⟩ :: after) :
      Step s { s with tasks := before ++ ⟨run, .reporting outcome⟩ :: after }
  | reported {run : Run} {outcome : Outcome} {before after : List Task}
      (htasks : s.tasks = before ++ ⟨run, .reporting outcome⟩ :: after)
      (halive : s.alive = true) :
      Step s { s with
        tasks := before ++ after
        outcomes := s.outcomes ++ [(run.id, outcome)], queued := s.queued ++ [run.id] }
  /-- nobody takes the outcome any more -/
  | unheard {run : Run} {outcome : Outcome} {before after : List Task}
      (htasks : s.tasks = before ++ ⟨run, .reporting outcome⟩ :: after)
      (hdead : s.alive = false) :
      Step s { s with tasks := before ++ after }

def runs (s : Traffic) : List Run := s.tasks.map (·.run)

def arrived (s : Traffic) : List Nat := s.outcomes.map (·.1)

/-- The invariant of all steps, of a controller, the runs whose executions have not ended, those
whose outcomes wait, and those whose outcomes were ever put into the queue. -/
structure Sound (c : Controller) (runs : List Run) (arrived queued : List Nat) : Prop where
  numbered : ∀ id ∈ queued ++ runs.map (·.id), id ≤ c.issued
  distinct : (queued ++ runs.map (·.id)).Nodup
  inLine : arrived <:+ queued
  told : ∀ id ∈ c.cancelled, id ≤ c.issued
  /-- the run in flight has its execution or its outcome still to come -/
  kept : ∀ run, c.inFlight = some run → run.id ∉ c.cancelled ∧ (run ∈ runs ∨ run.id ∈ arrived)
  givenUp : ∀ run ∈ runs, c.inFlight = some run ∨ run.id ∈ c.cancelled

variable {s t : Traffic} {c : Controller} {runs before after : List Run} {run : Run}
  {arrived queued : List Nat} {id : Nat}

theorem sound_new (e : Editor) (f : Feed) : Sound { editor := e, feed := f } [] [] [] where
  numbered := nofun
  distinct := List.nodup_nil
  inLine := List.suffix_refl _
  told := nofun
  kept := nofun
  givenUp := nofun

theorem Sound.edit (h : Sound c runs arrived queued) (e : Editor) (f : Feed) :
    Sound { c with editor := e, feed := f } runs arrived queued :=
  ⟨h.numbered, h.distinct, h.inLine, h.told, h.kept, h.givenUp⟩

theorem Sound.le_issued (h : Sound c runs arrived queued) (hrun : c.inFlight = some run) :
    run.id ≤ c.issued := by
  apply h.numbered
  rcases (h.kept run hrun).2 with hmem | hmem
  · exact List.mem_append_right _ (List.mem_map_of_mem hmem)
  · exact List.mem_append_left _ (h.inLine.subset hmem)

theorem Sound.not_mem_runs (h : Sound c runs arrived queued) (hmem : run.id ∈ queued) :
    run ∉ runs := by
  intro hrun
  exact (List.nodup_append.mp h.distinct).2.2 _ hmem _ (List.mem_map_of_mem hrun) rfl

theorem Sound.start (h : Sound c runs arrived queued) (hidle : c.inFlight = none) (e : Editor)
    (request : Request) :
    Sound { c with
        editor := e, inFlight := some ⟨c.issued + 1, request⟩, issued := c.issued + 1 }
      (runs ++ [⟨c.issued + 1, request⟩]) arrived queued where
  numbered := by
    intro id hid
    rw [List.map_append, ← List.append_assoc] at hid
    rcases List.mem_append.mp hid with hid | hid
    · exact Nat.le_succ_of_le (h.numbered id hid)
    · exact Nat.le_of_eq (List.mem_singleton.mp hid)
  distinct := by
    rw [List.map_append, ← List.append_assoc]
    refine List.nodup_append.mpr ⟨h.distinct, List.nodup_singleton _, ?_⟩
    intro id hid other hother
    have := h.numbered id hid
    have : other = c.issued + 1 := List.mem_singleton.mp hother
    omega
  inLine := h.inLine
  told := fun id hid => Nat.le_succ_of_le (h.told id hid)
  kept := by
    intro run hrun
    obtain rfl := Option.some.inj hrun
    refine ⟨?_, Or.inl (List.mem_append_right _ (List.mem_singleton_self _))⟩
    intro hid
    exact absurd (h.told _ hid) (Nat.not_succ_le_self _)
  givenUp := by
    intro run hrun
    rcases List.mem_append.mp hrun with hrun | hrun
    · rcases h.givenUp run hrun with hflight | hid
      · rw [hidle] at hflight
        cases hflight
      · exact Or.inr hid
    · exact Or.inl (congrArg some (List.mem_singleton.mp hrun).symm)

theorem Sound.cancel (h : Sound c runs arrived queued) (hrun : c.inFlight = some run) (e : Editor) :
    Sound { c with editor := e, inFlight := none, cancelled := c.cancelled ++ [run.id] }
      runs arrived queued where
  numbered := h.numbered
  distinct := h.distinct
  inLine := h.inLine
  told := by
    intro id hid
    rcases List.mem_append.mp hid with hid | hid
    · exact h.told id hid
    · rw [List.mem_singleton.mp hid]
      exact h.le_issued hrun
  kept := nofun
  givenUp := by
    intro other hother
    rcases h.givenUp other hother with hflight | hid
    · obtain rfl := Option.some.inj (hrun.symm.trans hflight)
      exact Or.inr (List.mem_append_right _ (List.mem_singleton_self _))
    · exact Or.inr (List.mem_append_left _ hid)

/-- Without a run in flight the outcomes that wait are of no account. -/
theorem Sound.lose (h : Sound c runs arrived queued) (hidle : c.inFlight = none) :
    Sound c runs [] queued where
  numbered := h.numbered
  distinct := h.distinct
  inLine := List.nil_suffix
  told := h.told
  kept := by
    intro run hrun
    rw [hidle] at hrun
    cases hrun
  givenUp := h.givenUp

/-- The outcome of the run in flight is taken: the executions that are left were all cancelled. -/
theorem Sound.settle (h : Sound c runs (run.id :: arrived) queued) (hrun : c.inFlight = some run)
    (e : Editor) (f : Feed) :
    Sound { c with editor := e, feed := f, inFlight := none } runs arrived queued where
  numbered := h.numbered
  distinct := h.distinct
  inLine := (List.suffix_cons _ _).trans h.inLine
  told := h.told
  kept := nofun
  givenUp := by
    intro other hother
    rcases h.givenUp other hother with hflight | hid
    · obtain rfl := Option.some.inj (hrun.symm.trans hflight)
      exact absurd hother (h.not_mem_runs (h.inLine.subset List.mem_cons_self))
    · exact Or.inr hid

theorem Sound.discard (h : Sound c runs (id :: arrived) queued)
    (hstale : ∀ run, c.inFlight = some run → run.id ≠ id) : Sound c runs arrived queued where
  numbered := h.numbered
  distinct := h.distinct
  inLine := (List.suffix_cons _ _).trans h.inLine
  told := h.told
  kept := by
    intro run hrun
    refine ⟨(h.kept run hrun).1, (h.kept run hrun).2.imp_right ?_⟩
    intro hmem
    exact (List.mem_cons.mp hmem).resolve_left (hstale run hrun)
  givenUp := h.givenUp

theorem Sound.giveUp (h : Sound c (before ++ run :: after) arrived queued)
    (hother : c.inFlight ≠ some run) : Sound c (before ++ after) arrived queued := by
  have hless : (before ++ after).Sublist (before ++ run :: after) :=
    (List.sublist_cons_self run after).append_left before
  have hids := (hless.map (·.id)).append_left queued
  constructor
  case numbered => exact fun id hid => h.numbered id (hids.subset hid)
  case distinct => exact h.distinct.sublist hids
  case inLine => exact h.inLine
  case told => exact h.told
  case kept =>
    intro other hflight
    refine ⟨(h.kept other hflight).1, (h.kept other hflight).2.imp_left ?_⟩
    intro hmem
    refine (List.mem_cons.mp (List.perm_middle.mem_iff.mp hmem)).resolve_left ?_
    rintro rfl
    exact hother hflight
  case givenUp => exact fun other hmem => h.givenUp other (hless.subset hmem)

theorem Sound.report (h : Sound c (before ++ run :: after) arrived queued) :
    Sound c (before ++ after) (arrived ++ [run.id]) (queued ++ [run.id]) := by
  have hids : (queued ++ [run.id] ++ (before ++ after).map (·.id)).Perm
      (queued ++ (before ++ run :: after).map (·.id)) := by
    rw [List.append_assoc, List.singleton_append, List.map_append, List.map_append, List.map_cons]
    exact List.Perm.append_left queued List.perm_middle.symm
  constructor
  case numbered => exact fun id hid => h.numbered id (hids.mem_iff.mp hid)
  case distinct => exact hids.nodup_iff.mpr h.distinct
  case inLine =>
    obtain ⟨delivered, hdelivered⟩ := h.inLine
    exact ⟨delivered, by rw [← List.append_assoc, hdelivered]⟩
  case told => exact h.told
  case kept =>
    intro other hflight
    refine ⟨(h.kept other hflight).1, ?_⟩
    rcases (h.kept other hflight).2 with hmem | hmem
    · rcases List.mem_cons.mp (List.perm_middle.mem_iff.mp hmem) with rfl | hmem
      · exact Or.inr (List.mem_append_right _ (List.mem_singleton_self _))
      · exact Or.inl hmem
    · exact Or.inr (List.mem_append_left _ hmem)
  case givenUp =>
    intro other hmem
    exact h.givenUp other (List.perm_middle.mem_iff.mpr (List.mem_cons_of_mem _ hmem))

theorem Sound.none_begun (h : Sound c runs arrived queued) {events : List Event}
    (hnone : begun events = []) : Sound c (runs ++ (begun events).map (·.run)) arrived queued := by
  rw [hnone, List.map_nil, List.append_nil]
  exact h

theorem unsettled_directive (directive : Directive) :
    ∀ event ∈ Session.directiveEvents directive, event.settled? = none := by
  cases directive <;> simp [Session.directiveEvents, Event.settled?]

/-- Commands start and cancel runs but report none. -/
theorem unsettled_handle (c : Controller) {command : Command} (hgoing : command ≠ .shutdown) :
    ∀ event ∈ (Session.handle c command).1, event.settled? = none := by
  intro event hevent
  rcases Session.handle_events c hgoing with ⟨directive, heq⟩ | hquiet
  · rw [heq] at hevent
    exact unsettled_directive directive event hevent
  · have hrun := hquiet event hevent
    cases event with
    | resultReady | errorLocated => cases hrun
    | _ => rfl

theorem Sound.handle (h : Sound c runs arrived queued) {command : Command}
    (hgoing : command ≠ .shutdown) :
    Sound (Session.handle c command).2
      (runs ++ (begun (Session.handle c command).1).map (·.run)) arrived queued := by
  have hpublished := Session.published_handle c command
  have hunsettled := unsettled_handle c hgoing
  generalize Session.handle c command = answer at hpublished hunsettled ⊢
  obtain ⟨events, c'⟩ := answer
  dsimp only at hpublished hunsettled ⊢
  cases hpublished with
  | edited | linked | left | fed | nothing => exact (h.edit _ _).none_begun rfl
  | started e request hidle => exact h.start hidle e request
  | cancelled e hrun => exact (h.cancel hrun e).none_begun rfl
  | settled e now outcome hrun hevent =>
    have := hunsettled _ List.mem_cons_self
    rw [hevent] at this
    cases this
  | closed hrun => exact (h.cancel hrun c.editor).none_begun rfl

theorem begun_settled {event : Event} (h : event.settled? = some id) (events : List Event) :
    begun (event :: events) = [] := by
  cases event with
  | resultReady | errorLocated => rfl
  | stateChanged | runStarted | runCancelled | feedChanged | exportRequested | focusGrid => cases h

theorem Sound.outcome (h : Sound c runs (id :: arrived) queued) (now : Nat) (outcome : Outcome) :
    Sound (Session.settle now id outcome c).2
      (runs ++ (begun (Session.settle now id outcome c).1).map (·.run)) arrived queued := by
  rcases c.complete_cases now id outcome with ⟨hstale, hc⟩ | ⟨run, completion, e, hrun, rfl, hc⟩
  · rw [Session.settle_of_discarded (by rw [hc])]
    exact (h.discard hstale).none_begun rfl
  · obtain ⟨event, hevent, heq⟩ := Session.completionEvents_eq run.id
      (Controller.noticed c.feed now run.request.query outcome).2.state completion
    unfold Session.settle
    rw [hc]
    dsimp only
    rw [heq]
    exact (h.settle hrun e _).none_begun (begun_settled hevent _)

theorem Sound.shutdown (h : Sound c runs arrived queued) :
    Sound (Session.shutdown c).2 (runs ++ (begun (Session.shutdown c).1).map (·.run)) [] queued ∧
      (Session.shutdown c).2.inFlight = none := by
  unfold Session.shutdown
  rcases Option.eq_none_or_eq_some c.inFlight with hidle | ⟨run, hrun⟩
  · rw [Controller.cancel_of_idle hidle]
    exact ⟨(h.lose hidle).none_begun rfl, hidle⟩
  · rw [Controller.cancel_of_running hrun]
    exact ⟨((h.cancel hrun c.editor).lose rfl).none_begun rfl, rfl⟩

/-- What holds of everything under way, at any time. -/
structure Steady (s : Traffic) : Prop where
  sound : Sound s.controller s.runs s.arrived s.queued
  /-- a session that has ended runs nothing and takes no command -/
  silent : s.alive = false → s.controller.inFlight = none ∧ s.commands = []

theorem steady_opened (e : Editor) (f : Feed) : (opened e f).Steady where
  sound := sound_new _ f
  silent := nofun

theorem runs_follow (s : Traffic) (answer : List Event × Controller) :
    (s.follow answer).runs = s.runs ++ (begun answer.1).map (·.run) := List.map_append

theorem runs_middle {first last : List Task} {run : Run} {stage : Stage}
    (h : s.tasks = first ++ ⟨run, stage⟩ :: last) :
    s.runs = first.map (·.run) ++ run :: last.map (·.run) := by
  rw [Traffic.runs, h, List.map_append, List.map_cons]

/-- An execution that goes on remains one. -/
theorem Steady.turn (h : s.Steady) {first last : List Task} {run : Run} {stage : Stage}
    (htasks : s.tasks = first ++ ⟨run, stage⟩ :: last) (next : Stage) :
    Steady { s with tasks := first ++ ⟨run, next⟩ :: last } where
  sound := by
    have hruns : Traffic.runs { s with tasks := first ++ ⟨run, next⟩ :: last } = s.runs :=
      (runs_middle rfl).trans (runs_middle htasks).symm
    rw [hruns]
    exact h.sound
  silent := h.silent

theorem Steady.drop (h : s.Steady) {first last : List Task} {run : Run} {stage : Stage}
    (htasks : s.tasks = first ++ ⟨run, stage⟩ :: last) (hother : s.controller.inFlight ≠ some run) :
    Steady { s with tasks := first ++ last } where
  sound := by
    have hsound := h.sound
    rw [runs_middle htasks] at hsound
    have hless := hsound.giveUp hother
    rw [← List.map_append] at hless
    exact hless
  silent := h.silent

theorem Step.steady (hstep : Step s t) (h : s.Steady) : t.Steady := by
  cases hstep with
  | given command halive => exact ⟨h.sound, fun hdead => by cases halive.symm.trans hdead⟩
  | handled hfirst hgoing halive =>
    refine ⟨?_, fun hdead => by cases halive.symm.trans hdead⟩
    rw [runs_follow]
    exact h.sound.handle hgoing
  | @settled now id outcome rest hfirst =>
    have hsound := h.sound
    have harrived : s.arrived = id :: rest.map (·.1) := by rw [arrived, hfirst, List.map_cons]
    rw [harrived] at hsound
    constructor
    case sound =>
      rw [runs_follow]
      exact hsound.outcome now outcome
    case silent =>
      intro hdead
      obtain ⟨hidle, hcommands⟩ := h.silent hdead
      have hstale : ∀ run, s.controller.inFlight = some run → run.id ≠ id := by
        intro run hrun
        cases hidle.symm.trans hrun
      have hdiscarded : (s.controller.complete now id outcome).1 = none := by
        rw [Controller.complete_of_stale hstale]
      show (Session.settle now id outcome s.controller).2.inFlight = none ∧ s.commands = []
      rw [Session.settle_of_discarded hdiscarded]
      exact ⟨hidle, hcommands⟩
  | closed halive hlast =>
    refine ⟨?_, fun _ => ⟨h.sound.shutdown.2, rfl⟩⟩
    have hruns : s.close.runs = _ := runs_follow s (Session.shutdown s.controller)
    rw [hruns]
    exact h.sound.shutdown.1
  | resumed htasks hlive => exact h.turn htasks .asking
  | gaveUp htasks hcancelled =>
    exact h.drop htasks fun hflight => (h.sound.kept _ hflight).1 hcancelled
  | putOff htasks => exact h.turn htasks .waiting
  | answered outcome htasks => exact h.turn htasks (.reporting outcome)
  | @reported run outcome first last htasks halive =>
    refine ⟨?_, h.silent⟩
    have hsound := h.sound
    rw [runs_middle htasks] at hsound
    have hreported := hsound.report
    rw [← List.map_append] at hreported
    have harrived : (s.outcomes ++ [(run.id, outcome)]).map (·.1) = s.arrived ++ [run.id] :=
      List.map_append
    rw [← harrived] at hreported
    exact hreported
  | unheard htasks hdead =>
    refine h.drop htasks ?_
    rw [(h.silent hdead).1]
    nofun

def Reached (e : Editor) (f : Feed) (s : Traffic) : Prop := Relation.ReflTransGen Step (opened e f) s

theorem Reached.steady {e : Editor} {f : Feed} (h : Reached e f s) : s.Steady := by
  induction h with
  | refl => exact steady_opened e f
  | tail before hstep ih => exact hstep.steady ih

/-- the execution of this run has not sent its outcome, and nobody has told it to give up -/
def Unsent (s : Traffic) (run : Run) : Prop :=
  (∃ task ∈ s.tasks, task.run = run) ∧ run.id ∉ s.controller.cancelled

/-- What can be relied on of the outcomes to come. -/
structure Accounted (s : Traffic) : Prop where
  /-- the outcome of the run in flight is neither lost nor doubled -/
  inFlight : ∀ run, s.controller.inFlight = some run →
    Xor (s.Unsent run) (s.arrived.count run.id = 1)
  /-- every other execution was told to give up -/
  others : ∀ task ∈ s.tasks, s.controller.inFlight ≠ some task.run →
    task.run.id ∈ s.controller.cancelled
  /-- no run has two executions -/
  single : (s.tasks.map (·.run.id)).Nodup
  /-- no outcome is put into the queue twice -/
  once : ∀ id, s.queued.count id ≤ 1

theorem Steady.accounted (h : s.Steady) : s.Accounted := by
  obtain ⟨hqueued, hruns, hapart⟩ := List.nodup_append.mp h.sound.distinct
  constructor
  case inFlight =>
    intro run hrun
    obtain ⟨hlive, hmem | hmem⟩ := h.sound.kept run hrun
    · have hunsent : s.Unsent run := ⟨List.mem_map.mp hmem, hlive⟩
      refine Or.inl ⟨hunsent, ?_⟩
      intro hcount
      have harrived : run.id ∈ s.arrived := List.count_pos_iff.mp (by omega)
      exact h.sound.not_mem_runs (h.sound.inLine.subset harrived) hmem
    · refine Or.inr ⟨List.count_eq_one_of_mem (hqueued.sublist h.sound.inLine.sublist) hmem, ?_⟩
      rintro ⟨⟨task, htask, rfl⟩, -⟩
      exact h.sound.not_mem_runs (h.sound.inLine.subset hmem) (List.mem_map_of_mem htask)
  case others =>
    intro task htask hother
    exact (h.sound.givenUp _ (List.mem_map_of_mem htask)).resolve_left hother
  case single =>
    rw [Traffic.runs, List.map_map] at hruns
    exact hruns
  case once => exact fun id => List.nodup_iff_count_le_one.mp hqueued id

/-- In whatever order the session and its executions take their steps, whenever a run is in flight
its outcome is still to be sent or waits in the queue, once. -/
theorem outcome_neither_lost_nor_doubled {e : Editor} {f : Feed} {s : Traffic} (h : Reached e f s) :
    s.Accounted := h.steady.accounted

theorem Reached.take {e : Editor} {f : Feed} (h : Reached e f s) (halive : s.alive = true)
    (hcommands : s.commands = []) {command : Command} (hgoing : command ≠ .shutdown) :
    Reached e f (s.follow (Session.handle s.controller command)) := by
  have hgiven := h.tail (.given command halive)
  rw [hcommands, List.nil_append] at hgiven
  have hhandled := hgiven.tail (.handled rfl hgoing halive)
  obtain ⟨c, commands, tasks, outcomes, queued, alive⟩ := s
  obtain rfl : commands = [] := hcommands
  exact hhandled

/-- A run is answered, and then cancelled and started again before it reports: its late outcome is
on the way, and so is an execution of the run in flight. -/
theorem outcome_neither_lost_nor_doubled_rerun :
    let statement : Request := ⟨['1'], 1, 0⟩
    let late : Outcome := .error ⟨"late", 0⟩
    ∃ s, Reached { text := ['1'] } (.empty 500 ⟨145, 70⟩) s ∧
      s.tasks = [⟨⟨1, statement⟩, .reporting late⟩, ⟨⟨2, statement⟩, .waiting⟩] ∧
      s.controller.inFlight = some ⟨2, statement⟩ ∧
      Xor (s.Unsent ⟨2, statement⟩) (s.arrived.count 2 = 1) ∧ 1 ∈ s.controller.cancelled := by
  intro statement late
  let c₀ := (opened { text := ['1'] } (.empty 500 ⟨145, 70⟩)).controller
  let c₁ := (Session.handle c₀ .toggleRun).2
  let c₂ := (Session.handle c₁ .toggleRun).2
  let c₃ := (Session.handle c₂ .toggleRun).2
  have htoggle : Command.toggleRun ≠ .shutdown := nofun
  have hfirst : begun (Session.handle c₀ .toggleRun).1 = [⟨⟨1, statement⟩, .waiting⟩] := by
    have hevents : (Session.handle c₀ .toggleRun).1 =
        [.runStarted ⟨1, statement⟩, .stateChanged .running] := by decide +kernel
    rw [hevents]
    rfl
  have hcancel : begun (Session.handle c₁ .toggleRun).1 = [] := by
    have hevents : (Session.handle c₁ .toggleRun).1 =
        [.runCancelled 1, .stateChanged .idle] := by decide +kernel
    rw [hevents]
    rfl
  have hsecond : begun (Session.handle c₂ .toggleRun).1 = [⟨⟨2, statement⟩, .waiting⟩] := by
    have hevents : (Session.handle c₂ .toggleRun).1 =
        [.runStarted ⟨2, statement⟩, .stateChanged .running] := by decide +kernel
    rw [hevents]
    rfl
  have hopened : Reached { text := ['1'] } (.empty 500 ⟨145, 70⟩) { controller := c₀ } :=
    Relation.ReflTransGen.refl
  have hstarted := hopened.take rfl rfl htoggle
  rw [follow, hfirst] at hstarted
  have hasking := hstarted.tail (.resumed (show _ = [] ++ _ :: _ from rfl) (by decide +kernel))
  have hanswered := hasking.tail (.answered late (show _ = [] ++ _ :: _ from rfl))
  have hcancelled := Reached.take hanswered rfl rfl htoggle
  rw [follow, hcancel] at hcancelled
  have hrerun := hcancelled.take rfl rfl htoggle
  rw [follow, hsecond] at hrerun
  have hflight : c₃.inFlight = some ⟨2, statement⟩ := by decide +kernel
  exact ⟨_, hrerun, rfl, hflight,
    (outcome_neither_lost_nor_doubled hrerun).inFlight ⟨2, statement⟩ hflight, by decide +kernel⟩

end Traffic

end CaretSql
