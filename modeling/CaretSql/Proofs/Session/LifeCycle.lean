import CaretSql.Proofs.Feed.Evict
import CaretSql.Proofs.Session.Stream

/-! The life cycle of runs in the event stream. The events of a session follow a grammar in which
at most one run is open: it is started under the next id and then either cancelled or reported,
together with the feed that announces it. -/

namespace CaretSql.Session

/-- The streams that a session can publish while `open?` is in flight and `n` runs were issued. -/
inductive Orderly : Option Run → Nat → List Event → Prop
  | nil {open? : Option Run} {n : Nat} : Orderly open? n []
  | quiet {open? : Option Run} {n : Nat} {event : Event} {events : List Event}
      (hquiet : event.isRunEvent = false) (rest : Orderly open? n events) :
      Orderly open? n (event :: events)
  | started {n : Nat} {run : Run} {events : List Event} (hid : run.id = n + 1)
      (rest : Orderly (some run) (n + 1) events) : Orderly none n (.runStarted run :: events)
  | cancelled {n : Nat} {run : Run} {events : List Event} (rest : Orderly none n events) :
      Orderly (some run) n (.runCancelled run.id :: events)
  | settled {n : Nat} {run : Run} {event : Event} {feed : FeedState} {events : List Event}
      (hevent : event.settled? = some run.id)
      (htitle : feed.notifications.head?.map (·.title) = some (String.ofList run.request.query))
      (rest : Orderly none n events) :
      Orderly (some run) n (event :: .feedChanged feed :: .stateChanged .idle :: events)

variable {open? : Option Run} {n : Nat} {event : Event} {events more : List Event}
  {run : Run} {c c' : Controller}

/-- What is published about one message goes before any orderly stream of what comes next. -/
theorem Published.orderly (h : Published c events c') (rest : Orderly c'.inFlight c'.issued more) :
    Orderly c.inFlight c.issued (events ++ more) := by
  cases h with
  | edited e => exact rest
  | linked url => exact .quiet rfl rest
  | left => exact .quiet rfl rest
  | fed f => exact .quiet rfl rest
  | nothing e hidle => exact .quiet rfl rest
  | started e request hidle =>
    rw [hidle]
    exact .started rfl (.quiet rfl rest)
  | cancelled e hrun =>
    rw [hrun]
    exact .cancelled (.quiet rfl rest)
  | settled e now outcome hrun hevent =>
    rw [hrun]
    exact .settled hevent (congrArg (Option.map (·.title)) (Feed.newest_notify now _ _ _ c.feed)) rest
  | closed hrun =>
    rw [hrun]
    exact .cancelled rest

theorem orderly_run (c : Controller) (messages : List (Nat × Message)) :
    Orderly c.inFlight c.issued (Session.run c messages).1 := by
  fun_induction Session.run c messages with
  | case1 c => exact .nil
  | case2 c now rest =>
    have h := (published now c (.command .shutdown)).orderly .nil
    rwa [List.append_nil] at h
  | case3 c now message rest hmessage answer onward ih =>
    exact (published now c message).orderly ih

theorem not_isRunEvent (h : event.isRunEvent = false) :
    event.started? = none ∧ event.ended? = none := by
  simpa [Event.isRunEvent] using h

theorem ended?_of_settled? {id : Nat} (h : event.settled? = some id) :
    event.started? = none ∧ event.ended? = some id := by
  cases event with
  | resultReady => exact ⟨rfl, h⟩
  | errorLocated => exact ⟨rfl, h⟩
  | stateChanged | runStarted | runCancelled | feedChanged | exportRequested | focusGrid => cases h

/-- Runs are started under the ids that follow the issued ones. -/
theorem Orderly.started_eq (h : Orderly open? n events) :
    ∃ count, events.filterMap Event.started? = List.range' (n + 1) count := by
  induction h with
  | nil => exact ⟨0, rfl⟩
  | quiet hquiet rest ih =>
    rw [List.filterMap_cons_none (not_isRunEvent hquiet).1]
    exact ih
  | @started n run events hid rest ih =>
    obtain ⟨count, ih⟩ := ih
    have hhead : (Event.runStarted run).started? = some run.id := rfl
    refine ⟨count + 1, ?_⟩
    rw [List.filterMap_cons_some hhead, ih, hid, List.range'_succ]
  | cancelled rest ih => exact ih
  | settled hevent htitle rest ih =>
    rw [List.filterMap_cons_none (ended?_of_settled? hevent).1]
    exact ih

/-- Runs end in the order in which they were started, the open one first. -/
theorem Orderly.ended_sublist (h : Orderly open? n events) :
    (events.filterMap Event.ended?).Sublist
      (open?.toList.map (·.id) ++ events.filterMap Event.started?) := by
  induction h with
  | nil => exact List.nil_sublist _
  | quiet hquiet rest ih =>
    obtain ⟨hstarted, hended⟩ := not_isRunEvent hquiet
    rw [List.filterMap_cons_none hstarted, List.filterMap_cons_none hended]
    exact ih
  | started hid rest ih => exact ih
  | cancelled rest ih => exact ih.cons_cons _
  | settled hevent htitle rest ih =>
    obtain ⟨hstarted, hended⟩ := ended?_of_settled? hevent
    rw [List.filterMap_cons_none hstarted, List.filterMap_cons_some hended]
    exact ih.cons_cons _

/-- An open run stays open until a run event, and that one ends it. -/
theorem Orderly.ended_of_open (h : Orderly (some run) n events)
    (hnext : events.find? Event.isRunEvent = some event) : event.ended? = some run.id := by
  induction events with
  | nil => cases hnext
  | cons first events ih =>
    cases h with
    | quiet hquiet rest =>
      rw [List.find?_cons_of_neg (by simp [hquiet])] at hnext
      exact ih rest hnext
    | cancelled rest =>
      rw [List.find?_cons_of_pos rfl] at hnext
      obtain rfl := Option.some.inj hnext
      rfl
    | settled hevent htitle rest =>
      have hended := (ended?_of_settled? hevent).2
      rw [List.find?_cons_of_pos (by simp [Event.isRunEvent, hended])] at hnext
      obtain rfl := Option.some.inj hnext
      exact hended

theorem Orderly.open_of_ended {id : Nat} (h : Orderly open? n (event :: events))
    (hended : event.ended? = some id) : ∃ run, open? = some run ∧ run.id = id := by
  cases h with
  | quiet hquiet rest =>
    rw [(not_isRunEvent hquiet).2] at hended
    cases hended
  | started hid rest => cases hended
  | cancelled rest => exact ⟨_, rfl, Option.some.inj hended⟩
  | settled hevent htitle rest =>
    rw [(ended?_of_settled? hevent).2] at hended
    exact ⟨_, rfl, Option.some.inj hended⟩

/-- A report comes with the feed in which it is announced. -/
theorem Orderly.announced {id : Nat} (h : Orderly open? n (event :: events))
    (hsettled : event.settled? = some id) :
    ∃ run feed more, open? = some run ∧ run.id = id ∧
      events = .feedChanged feed :: .stateChanged .idle :: more ∧
      feed.notifications.head?.map (·.title) = some (String.ofList run.request.query) := by
  cases h with
  | quiet hquiet rest =>
    have hended := (not_isRunEvent hquiet).2
    rw [(ended?_of_settled? hsettled).2] at hended
    cases hended
  | started hid rest => cases hsettled
  | cancelled rest => cases hsettled
  | settled hevent htitle rest =>
    exact ⟨_, _, _, rfl, Option.some.inj (hevent.symm.trans hsettled), rfl, htitle⟩

/-- What is left of a stream is orderly again, and only an event that starts a run opens one. -/
theorem Orderly.tail (h : Orderly open? n (event :: events)) :
    ∃ left? m, Orderly left? m events ∧
      ∀ run, left? = some run → open? = some run ∨ event = .runStarted run := by
  cases h with
  | quiet hquiet rest => exact ⟨open?, n, rest, fun run hrun => Or.inl hrun⟩
  | started hid rest =>
    refine ⟨_, _, rest, ?_⟩
    intro run hrun
    exact Or.inr (by rw [Option.some.inj hrun])
  | cancelled rest =>
    refine ⟨_, _, rest, ?_⟩
    intro run hrun
    cases hrun
  | settled hevent htitle rest =>
    refine ⟨none, n, .quiet rfl (.quiet rfl rest), ?_⟩
    intro run hrun
    cases hrun

theorem Orderly.behind {before : List Event} (h : Orderly open? n (before ++ events)) :
    ∃ left? m, Orderly left? m events ∧
      ∀ run, left? = some run → open? = some run ∨ .runStarted run ∈ before := by
  induction before generalizing open? n with
  | nil => exact ⟨open?, n, h, fun run hrun => Or.inl hrun⟩
  | cons first before ih =>
    obtain ⟨middle?, k, hmiddle, hopened⟩ := h.tail
    obtain ⟨left?, m, hleft, hlater⟩ := ih hmiddle
    refine ⟨left?, m, hleft, ?_⟩
    intro run hrun
    rcases hlater run hrun with hrun | hmem
    · rcases hopened run hrun with hrun | rfl
      · exact Or.inl hrun
      · exact Or.inr List.mem_cons_self
    · exact Or.inr (List.mem_cons_of_mem _ hmem)

structure LifeCycle (c : Controller) (messages : List (Nat × Message)) : Prop where
  /-- no id is started twice -/
  started : ((Session.run c messages).1.filterMap Event.started?).Nodup
  /-- the run event that follows a start ends the same run -/
  next : ∀ before run after event,
    (Session.run c messages).1 = before ++ .runStarted run :: after →
    after.find? Event.isRunEvent = some event → event.ended? = some run.id
  /-- no id is ended twice, in whichever way -/
  ended : ((Session.run c messages).1.filterMap Event.ended?).Nodup
  /-- what ends was started -/
  begun : ∀ before event after id, (Session.run c messages).1 = before ++ event :: after →
    event.ended? = some id → ∃ run, .runStarted run ∈ before ∧ run.id = id
  /-- a report is followed by one feed, on top of which is the statement of the run -/
  announced : ∀ before event after id, (Session.run c messages).1 = before ++ event :: after →
    event.settled? = some id → ∃ run feed more, .runStarted run ∈ before ∧ run.id = id ∧
      after = .feedChanged feed :: .stateChanged .idle :: more ∧
      feed.notifications.head?.map (·.title) = some (String.ofList run.request.query)
  /-- nothing is published about a discarded outcome, and nothing comes of it later -/
  discarded : ∀ before now id outcome after,
    messages = before ++ (now, .outcome id outcome) :: after →
    ((Session.run c before).2.complete now id outcome).1 = none →
    (receive now (Session.run c before).2 (.outcome id outcome)).1 = [] ∧
      Session.run c messages = Session.run c (before ++ after)

theorem lifeCycle_of_idle (hidle : c.inFlight = none) (messages : List (Nat × Message)) :
    LifeCycle c messages := by
  have horderly := orderly_run c messages
  rw [hidle] at horderly
  have hstarted : ((Session.run c messages).1.filterMap Event.started?).Nodup := by
    obtain ⟨count, heq⟩ := horderly.started_eq
    rw [heq]
    exact List.nodup_range'
  -- with no run open at the start, only a start in the stream can have opened one
  have hbegun : ∀ before after, (Session.run c messages).1 = before ++ after →
      ∃ open? n, Orderly open? n after ∧ ∀ run, open? = some run → .runStarted run ∈ before := by
    intro before after heq
    rw [heq] at horderly
    obtain ⟨open?, n, hafter, hopened⟩ := horderly.behind
    exact ⟨open?, n, hafter, fun run hrun => (hopened run hrun).resolve_left nofun⟩
  constructor
  case started => exact hstarted
  case next =>
    intro before run after event heq hnext
    obtain ⟨open?, n, hafter, -⟩ := hbegun _ _ heq
    cases hafter with
    | quiet hquiet rest => cases hquiet
    | started hid rest => exact rest.ended_of_open hnext
    | settled hevent htitle rest => cases hevent
  case ended => exact horderly.ended_sublist.nodup hstarted
  case begun =>
    intro before event after id heq hended
    obtain ⟨open?, n, hafter, hopened⟩ := hbegun _ _ heq
    obtain ⟨run, hrun, hid⟩ := hafter.open_of_ended hended
    exact ⟨run, hopened run hrun, hid⟩
  case announced =>
    intro before event after id heq hsettled
    obtain ⟨open?, n, hafter, hopened⟩ := hbegun _ _ heq
    obtain ⟨run, feed, more, hrun, hid, hmore, htitle⟩ := hafter.announced hsettled
    exact ⟨run, feed, more, hopened run hrun, hid, hmore, htitle⟩
  case discarded =>
    intro before now id outcome after heq hnone
    rw [heq]
    exact ⟨congrArg Prod.fst (settle_of_discarded hnone), run_of_discarded after hnone⟩

/-- Whatever commands and outcomes a session takes in, in whichever order, stale, duplicated and
unknown outcomes among them: its stream shows each run once, from its start to its one end. -/
theorem run_life_cycle (e : Editor) (f : Feed) (messages : List (Nat × Message)) :
    LifeCycle ({ editor := e, feed := f } : Controller).registerActions messages :=
  lifeCycle_of_idle rfl messages

/-- A run that is answered once for an id that nobody issued, and then for its own. -/
theorem run_life_cycle_late_answer :
    let c := ({ editor := { text := ['1'] }, feed := Feed.empty 500 ⟨145, 70⟩ } :
      Controller).registerActions
    let started := [Event.runStarted ⟨1, ⟨['1'], 1, 0⟩⟩, .stateChanged .running]
    let messages := [(0, .command .toggleRun), (3, .outcome 7 (.error ⟨"late", 0⟩)),
      (4, Message.outcome 1 (.ok (.ddl ['1'])))]
    (receive 3 (Session.run c [(0, .command .toggleRun)]).2 (.outcome 7 (.error ⟨"late", 0⟩))).1 =
        [] ∧
      ∃ feed more, (Session.run c messages).1 =
          started ++ .resultReady 1 (.ddl ['1']) :: .feedChanged feed :: .stateChanged .idle ::
            more ∧
        feed.notifications.head?.map (·.title) = some "1" := by
  intro c started messages
  have h := run_life_cycle { text := ['1'] } (Feed.empty 500 ⟨145, 70⟩) messages
  refine ⟨?_, ?_⟩
  · exact (h.discarded [(0, .command .toggleRun)] 3 7 _ [(4, .outcome 1 (.ok (.ddl ['1'])))] rfl
      (by decide +kernel)).1
  · have heq : (Session.run c messages).1 = started ++ .resultReady 1 (.ddl ['1']) ::
        [.feedChanged ⟨[⟨4, .info, 70, "1", none⟩], 500⟩, .stateChanged .idle] := by
      decide +kernel
    obtain ⟨run, feed, more, hrun, -, hmore, htitle⟩ := h.announced _ _ _ 1 heq rfl
    have hstatement : run = ⟨1, ⟨['1'], 1, 0⟩⟩ := by simpa [started] using hrun
    refine ⟨feed, more, by rw [heq, hmore], ?_⟩
    rw [htitle, hstatement]

end CaretSql.Session
