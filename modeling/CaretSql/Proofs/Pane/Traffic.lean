import CaretSql.Proofs.Pane.Deed
import CaretSql.Proofs.Session.Traffic

/-! The executions of a pane. A pane runs its jobs in the order in which they were woken, and that is
one of the orders in which a session and its executions can take their steps. So what holds in all
of them holds at a pane. -/

namespace CaretSql.Pane

open Traffic (Task begun)

/-- Between two turns an execution has yet to look at its cancellation, whatever it waits for. -/
def tasks (p : Pane) : List Task := p.runs.map fun run => ⟨run, .waiting⟩

/-- What is under way at a pane, whose session was ever sent the outcomes of `queued`. -/
def traffic (queued : List Nat) (p : Pane) : Traffic where
  controller := p.controller
  commands := p.commands
  tasks := p.tasks
  outcomes := p.outcomes
  queued := queued
  alive := p.alive

variable {p q : Pane} {e : Editor} {f : Feed} {queued : List Nat} {x : Execution}
  {before after : List Execution}

theorem waiting_begun (events : List Event) :
    ((begun events).map (·.run)).map (fun run => (⟨run, .waiting⟩ : Task)) = begun events := by
  unfold begun
  split <;> rfl

theorem runs_follow (c : Controller) (answer : List Event × Controller) (p : Pane) :
    (p.follow c answer).runs = p.runs ++ (begun answer.1).map (·.run) := by
  unfold follow
  dsimp only
  split
  · next run _ heq =>
    rw [runs_spawn, runs_wakes, runs_publish, heq]
    rfl
  · next hother =>
    have hnone : begun answer.1 = [] := by
      unfold begun
      split
      · next run _ heq => exact absurd heq (hother run _)
      · rfl
    rw [runs_wakes, runs_publish, hnone, List.map_nil, List.append_nil]
    rfl

theorem traffic_congr (hdesk : q.desk = p.desk) (hruns : q.runs = p.runs) :
    q.traffic queued = p.traffic queued := by
  simp only [desk, Desk.mk.injEq] at hdesk
  obtain ⟨hcontroller, -, halive, -, hcommands, houtcomes⟩ := hdesk
  simp only [traffic, tasks, hcontroller, halive, hcommands, houtcomes, hruns]

/-- A pane follows its session as any traffic does, but for the executions that it wakes. -/
theorem traffic_follow (c : Controller) (answer : List Event × Controller) (p : Pane) :
    (p.follow c answer).traffic queued = (p.traffic queued).follow answer := by
  have hdesk := desk_follow c answer p
  simp only [desk, Desk.take, Desk.mk.injEq] at hdesk
  obtain ⟨hcontroller, -, halive, -, hcommands, houtcomes⟩ := hdesk
  simp only [traffic, tasks, Traffic.follow, hcontroller, halive, hcommands, houtcomes, runs_follow,
    List.map_append, waiting_begun]

theorem traffic_stop (p : Pane) : p.stop.traffic queued = (p.traffic queued).close := by
  have hfollow : (p.follow p.controller (Session.shutdown p.controller)).traffic queued = _ :=
    traffic_follow _ _ p
  exact congrArg (fun s : Traffic => { s with alive := false, commands := [], outcomes := [] }) hfollow

/-- What is under way at this pane can come about at a session that was opened with this editor and
this feed. -/
def Arises (e : Editor) (f : Feed) (p : Pane) : Prop :=
  ∃ queued, Traffic.Reached e f (p.traffic queued)

theorem Arises.alive (h : Arises e f p) (hne : p.commands ≠ []) : p.alive = true := by
  obtain ⟨queued, h⟩ := h
  cases halive : p.alive with
  | true => rfl
  | false => exact absurd (h.steady.silent halive).2 hne

theorem Arises.stop (h : Arises e f p) (halive : p.alive = true)
    (hlast : ∀ command ∈ p.commands.head?, command = .shutdown) : Arises e f p.stop := by
  obtain ⟨queued, h⟩ := h
  refine ⟨queued, ?_⟩
  rw [traffic_stop]
  exact h.tail (.closed halive hlast)

theorem Arises.takeCommand (h : Arises e f p) : Arises e f p.takeCommand := by
  unfold Pane.takeCommand
  split
  · exact h
  · next heq =>
    refine h.stop (h.alive (by simp [heq])) ?_
    simp [heq]
  · next command rest hgoing heq =>
    have halive := h.alive (by simp [heq])
    obtain ⟨queued, h⟩ := h
    refine ⟨queued, ?_⟩
    rw [traffic_follow]
    exact h.tail (.handled heq hgoing halive)

theorem Arises.takeOutcome (h : Arises e f p) : Arises e f p.takeOutcome := by
  unfold Pane.takeOutcome
  split
  · exact h
  · next id outcome rest heq =>
    obtain ⟨queued, h⟩ := h
    refine ⟨queued, ?_⟩
    rw [traffic_follow]
    exact h.tail (.settled p.now heq)

/-- No two executions are of the same run. -/
theorem Arises.nodup (h : Arises e f p) : (p.executions.map (·.run.id)).Nodup := by
  obtain ⟨queued, h⟩ := h
  have hsingle : (p.tasks.map (·.run.id)).Nodup := h.steady.accounted.single
  simp only [tasks, runs, List.map_map] at hsingle
  exact hsingle

theorem endExecution_eq (hnodup : (p.executions.map (·.run.id)).Nodup)
    (hx : p.executions = before ++ x :: after) :
    p.endExecution x.run.id = { p with executions := before ++ after } := by
  rw [hx, List.map_append, List.map_cons, List.nodup_middle, List.nodup_cons] at hnodup
  have hothers : ∀ y ∈ before ++ after, (y.run.id != x.run.id) = true := by
    intro y hy
    refine bne_iff_ne.mpr fun heq => hnodup.1 ?_
    rw [← heq, ← List.map_append]
    exact List.mem_map_of_mem hy
  unfold endExecution
  rw [hx, List.filter_append, List.filter_cons_of_neg (by simp), ← List.filter_append,
    List.filter_eq_self.mpr hothers]

theorem tasks_middle (hx : p.executions = before ++ x :: after) :
    p.tasks = tasks { p with executions := before } ++
      ⟨x.run, .waiting⟩ :: tasks { p with executions := after } := by
  simp only [tasks, runs, hx, List.map_append, List.map_cons]

theorem tasks_append (p : Pane) (before after : List Execution) :
    tasks { p with executions := before } ++ tasks { p with executions := after } =
      tasks { p with executions := before ++ after } := by
  simp only [tasks, runs, List.map_append]

/-- An execution that was not cancelled is answered and reports, if the session still listens. -/
theorem Arises.report (h : Arises e f p) (hx : x ∈ p.executions)
    (hlive : x.run.id ∉ p.controller.cancelled) (outcome : Outcome) :
    Arises e f (p.report x.run.id outcome) := by
  obtain ⟨before, after, hsplit⟩ := List.append_of_mem hx
  have hend := endExecution_eq h.nodup hsplit
  obtain ⟨queued, h⟩ := h
  have hanswered := (h.tail (.resumed (tasks_middle hsplit) hlive)).tail (.answered outcome rfl)
  unfold Pane.report
  dsimp only
  rw [hend]
  split
  · next halive =>
    refine ⟨queued ++ [x.run.id], ?_⟩
    rw [traffic_congr (desk_wake _ _) (runs_wake _ _)]
    have hreported := hanswered.tail (.reported rfl halive)
    dsimp only at hreported
    rw [tasks_append] at hreported
    exact hreported
  · next halive =>
    have hdead : p.alive = false := by simpa using halive
    refine ⟨queued, ?_⟩
    have hunheard := hanswered.tail (.unheard rfl hdead)
    dsimp only at hunheard
    rw [tasks_append] at hunheard
    exact hunheard

theorem Arises.endExecution (h : Arises e f p) (hx : x ∈ p.executions)
    (hcancelled : x.run.id ∈ p.controller.cancelled) : Arises e f (p.endExecution x.run.id) := by
  obtain ⟨before, after, hsplit⟩ := List.append_of_mem hx
  rw [endExecution_eq h.nodup hsplit]
  obtain ⟨queued, h⟩ := h
  have hgone := h.tail (.gaveUp (tasks_middle hsplit) hcancelled)
  rw [tasks_append] at hgone
  exact ⟨queued, hgone⟩

theorem lasting_arises (e : Editor) (f : Feed) : Lasting (Arises e f) where
  frame := by
    rintro p q ⟨queued, h⟩ hdesk hruns
    exact ⟨queued, traffic_congr hdesk hruns ▸ h⟩
  given := by
    rintro p command ⟨queued, h⟩ halive
    exact ⟨queued, h.tail (.given command halive)⟩
  takeCommand := Arises.takeCommand
  takeOutcome := fun h _ => h.takeOutcome
  stop := by
    intro p h halive hnil
    refine h.stop halive ?_
    rw [hnil]
    nofun
  report := fun outcome h hx hlive => h.report hx hlive outcome
  endExecution := Arises.endExecution
  unobserve := fun h => h

/-- Whatever happens at a pane, what is under way there has come about by steps of its session and of
its executions; so the run in flight has one outcome to come. -/
theorem accounted (e : Editor) (f : Feed) (engine : Scripted.Engine) (rowLimit now : Nat)
    (deeds : List Deed) :
    let p := deeds.foldl deed (openWith e f engine rowLimit now)
    ∃ queued, Traffic.Reached e f (p.traffic queued) ∧ (p.traffic queued).Accounted := by
  have hopen : Arises e f (openWith e f engine rowLimit now) := ⟨[], Relation.ReflTransGen.refl⟩
  obtain ⟨queued, h⟩ := (lasting_arises e f).deeds hopen deeds
  exact ⟨queued, h, h.steady.accounted⟩

end CaretSql.Pane
