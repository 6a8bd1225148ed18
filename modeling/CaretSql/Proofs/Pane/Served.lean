import CaretSql.Proofs.Pane.Deed
import CaretSql.Proofs.Session.Stream

/-! The session of a pane. Whatever happens at a pane, the events that are seen of it are what a
session publishes about the messages that the pane has taken, one after the other. -/

namespace CaretSql.Pane

open Session (run receive shutdown)

variable {p : Pane} {c : Controller} {d : Desk} {messages : List (Nat × Message)}

/-- The desk shows what a session from `c` makes of these messages; what nobody sees any more is
missing at the end. -/
structure Shows (c : Controller) (messages : List (Nat × Message)) (d : Desk) : Prop where
  controller : d.controller = (run c messages).2
  seen : d.events <+: (run c messages).1
  complete : d.observed = true → d.events = (run c messages).1

/-- The session at this desk took in these messages. It ends with a shutdown, and then nothing is
left on the desk. -/
structure Served (c : Controller) (messages : List (Nat × Message)) (d : Desk) : Prop
    extends Shows c messages d where
  going : d.alive = true → ∀ m ∈ messages, m.2 ≠ .command .shutdown
  emptied : d.alive = false → d.commands = [] ∧ d.outcomes = []

theorem Shows.take (h : Shows c messages d) (hgoing : ∀ m ∈ messages, m.2 ≠ .command .shutdown)
    (now : Nat) (message : Message) :
    Shows c (messages ++ [(now, message)]) (d.take (receive now d.controller message)) := by
  have hrun : run c (messages ++ [(now, message)]) =
      ((run c messages).1 ++ (receive now d.controller message).1,
        (receive now d.controller message).2) := by
    rw [Session.run_append hgoing, Session.run_singleton, h.controller]
  have hcomplete : d.observed = true →
      (d.take (receive now d.controller message)).events =
        (run c messages).1 ++ (receive now d.controller message).1 := by
    intro hobserved
    rw [← h.complete hobserved]
    exact if_pos hobserved
  constructor
  case controller =>
    rw [hrun]
    rfl
  case seen =>
    rw [hrun]
    by_cases hobserved : d.observed = true
    · exact ⟨[], (List.append_nil _).trans (hcomplete hobserved)⟩
    · have hunseen : (d.take (receive now d.controller message)).events = d.events :=
        if_neg hobserved
      rw [hunseen]
      exact h.seen.trans (List.prefix_append _ _)
  case complete =>
    intro hobserved
    rw [hrun]
    exact hcomplete hobserved

theorem Served.take (h : Served c messages d) (halive : d.alive = true) (now : Nat)
    {message : Message} (hmessage : message ≠ .command .shutdown) :
    Served c (messages ++ [(now, message)]) (d.take (receive now d.controller message)) where
  toShows := h.toShows.take (h.going halive) now message
  going := by
    intro _ m hm
    rcases List.mem_append.mp hm with hm | hm
    · exact h.going halive m hm
    · rw [List.mem_singleton.mp hm]
      exact hmessage
  emptied := by
    intro hdead
    rw [Desk.take, halive] at hdead
    cases hdead

theorem Served.close (h : Served c messages d) (halive : d.alive = true) (now : Nat) :
    Served c (messages ++ [(now, .command .shutdown)]) (d.take (shutdown d.controller)).close := by
  have hshows := h.toShows.take (h.going halive) now (.command .shutdown)
  exact ⟨⟨hshows.controller, hshows.seen, hshows.complete⟩, nofun, fun _ => ⟨rfl, rfl⟩⟩

/-- What waits on the desk is of no account until it is taken. -/
theorem Served.queue (h : Served c messages d) (halive : d.alive = true) (commands : List Command)
    (outcomes : List (Nat × Outcome)) : Served c messages { d with commands, outcomes } where
  toShows := ⟨h.controller, h.seen, h.complete⟩
  going := h.going
  emptied := by
    intro hdead
    cases halive.symm.trans hdead

/-- The session of this pane began at `c`. -/
def Keeps (c : Controller) (p : Pane) : Prop := ∃ messages, Served c messages p.desk

theorem Keeps.of_desk {q : Pane} (h : Keeps c p) (hdesk : q.desk = p.desk) : Keeps c q := by
  unfold Keeps
  rw [hdesk]
  exact h

theorem alive_of_commands (h : Keeps c p) (hne : p.commands ≠ []) : p.alive = true := by
  obtain ⟨messages, h⟩ := h
  cases halive : p.alive with
  | true => rfl
  | false => exact absurd (h.emptied halive).1 hne

theorem keeps_stop (h : Keeps c p) (halive : p.alive = true) : Keeps c p.stop := by
  obtain ⟨messages, h⟩ := h
  refine ⟨messages ++ [(p.now, .command .shutdown)], ?_⟩
  rw [desk_stop]
  exact h.close halive p.now

theorem keeps_takeCommand (h : Keeps c p) : Keeps c p.takeCommand := by
  unfold takeCommand
  split
  · exact h
  · next heq => exact keeps_stop h (alive_of_commands h (by simp [heq]))
  · next command rest hcommand heq =>
    have halive := alive_of_commands h (by simp [heq])
    obtain ⟨messages, h⟩ := h
    have hmessage : Message.command command ≠ .command .shutdown := by simpa using hcommand
    refine ⟨messages ++ [(p.now, .command command)], ?_⟩
    rw [desk_follow]
    exact (h.queue halive rest p.outcomes).take halive p.now hmessage

theorem keeps_takeOutcome (h : Keeps c p) (halive : p.alive = true) : Keeps c p.takeOutcome := by
  unfold takeOutcome
  split
  · exact h
  · next id outcome rest heq =>
    obtain ⟨messages, h⟩ := h
    refine ⟨messages ++ [(p.now, .outcome id outcome)], ?_⟩
    rw [desk_follow]
    exact (h.queue halive p.commands rest).take halive p.now nofun

theorem keeps_report (h : Keeps c p) (id : Nat) (outcome : Outcome) :
    Keeps c (p.report id outcome) := by
  unfold report
  dsimp only
  split
  · next halive =>
    obtain ⟨messages, h⟩ := h
    refine ⟨messages, ?_⟩
    rw [desk_wake]
    exact h.queue halive p.commands _
  · exact h

theorem lasting_keeps (c : Controller) : Lasting (Keeps c) where
  frame := fun h hdesk _ => h.of_desk hdesk
  given := by
    rintro p command ⟨messages, h⟩ halive
    exact ⟨messages, h.queue halive _ p.outcomes⟩
  takeCommand := keeps_takeCommand
  takeOutcome := keeps_takeOutcome
  stop := fun h halive _ => keeps_stop h halive
  report := fun outcome h _ _ => keeps_report h _ outcome
  endExecution := fun h _ _ => h
  unobserve := by
    rintro p ⟨messages, h⟩
    exact ⟨messages, ⟨h.controller, h.seen, nofun⟩, h.going, h.emptied⟩

/-- Whatever happens at a pane, its session has taken in some messages one after the other: the
controller is where these lead, and the events are what is published about them, as long as someone
looks. -/
theorem served (e : Editor) (f : Feed) (engine : Scripted.Engine) (rowLimit now : Nat)
    (deeds : List Deed) :
    ∃ messages, Served ({ editor := e, feed := f } : Controller).registerActions messages
      (deeds.foldl deed (openWith e f engine rowLimit now)).desk := by
  have hopen : Keeps ({ editor := e, feed := f } : Controller).registerActions
      (openWith e f engine rowLimit now) :=
    ⟨[], ⟨rfl, List.prefix_refl _, fun _ => rfl⟩, nofun, nofun⟩
  exact (lasting_keeps _).deeds hopen deeds

end CaretSql.Pane
