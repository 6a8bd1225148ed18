import CaretSql.Proofs.Pane.Served

/-! An observer of a session. Whoever folds its events from the start knows, whenever the session
waits for its next message, how the controller stands: whether it runs, what it runs and its feed. -/

namespace CaretSql

/-- What an observer takes the session to be. -/
structure View where
  state : SessionState
  request : Option Request
  feed : FeedState
deriving DecidableEq, Repr

namespace View

def of (c : Controller) : View := ⟨c.state, c.currentRequest, c.feed.state⟩

/-- before the first event only the budget of the feed is known -/
def initial (maxHeight : Nat) : View := ⟨.idle, none, ⟨[], maxHeight⟩⟩

def see (v : View) : Event → View
  | .stateChanged state => { v with state }
  | .runStarted run => { v with request := some run.request }
  | .runCancelled _ | .resultReady _ _ | .errorLocated _ _ _ => { v with request := none }
  | .feedChanged feed => { v with feed }
  | .exportRequested _ | .focusGrid => v

def watch (v : View) (events : List Event) : View := events.foldl see v

theorem watch_append (v : View) (first second : List Event) :
    v.watch (first ++ second) = (v.watch first).watch second := List.foldl_append

theorem of_new (e : Editor) (maxHeight : Nat) (heights : HeightEstimates) :
    of ({ editor := e, feed := .empty maxHeight heights } : Controller).registerActions =
      initial maxHeight := rfl

theorem of_idle {c : Controller} (h : c.inFlight = none) : of c = ⟨.idle, none, c.feed.state⟩ := by
  simp only [of, Controller.state, Controller.currentRequest, h]
  rfl

theorem of_running {c : Controller} {run : Run} (h : c.inFlight = some run) :
    of c = ⟨.running, some run.request, c.feed.state⟩ := by
  simp only [of, Controller.state, Controller.currentRequest, h]
  rfl

theorem see_settled {event : Event} {id : Nat} (h : event.settled? = some id) (v : View) :
    v.see event = { v with request := none } := by
  cases event with
  | resultReady | errorLocated => rfl
  | stateChanged | runStarted | runCancelled | feedChanged | exportRequested | focusGrid => cases h

end View

namespace Session

variable {c c' : Controller} {events : List Event} {now : Nat}

/-- Only the end of a session is answered with a cancellation and nothing else. -/
theorem receive_ne_cancelled {message : Message} (h : message ≠ .command .shutdown) (id : Nat) :
    (receive now c message).1 ≠ [.runCancelled id] := by
  cases message with
  | command command =>
    have hcommand : command ≠ .shutdown := by
      rintro rfl
      exact h rfl
    rcases handle_events c hcommand with ⟨directive, heq⟩ | hquiet
    · rw [receive, heq]
      cases directive <;> simp [directiveEvents]
    · intro heq
      have hmem : Event.runCancelled id ∈ (receive now c (.command command)).1 := by
        rw [heq]
        exact List.mem_singleton_self _
      cases hquiet _ hmem
  | outcome id' outcome =>
    simp only [receive, settle]
    rcases c.complete now id' outcome with ⟨_ | completion, c'⟩
    · nofun
    · obtain ⟨event, -, heq⟩ := completionEvents_eq id' c'.feed.state completion
      simp [heq]

/-- The events about one message take the view along, unless the session ends in the middle of a
run: then it falls silent with the cancellation. -/
theorem Published.watch (h : Published c events c') (hopen : ∀ id, events ≠ [.runCancelled id]) :
    (View.of c).watch events = View.of c' := by
  cases h with
  | edited | linked | left | fed => rfl
  | nothing e hidle =>
    have hafter : ({ c with editor := e } : Controller).inFlight = none := hidle
    rw [View.of_idle hidle, View.of_idle hafter]
    rfl
  | started e request hidle =>
    rw [View.of_idle hidle, View.of_running rfl]
    rfl
  | cancelled e hrun =>
    rw [View.of_running hrun, View.of_idle rfl]
    rfl
  | settled e time outcome hrun hevent =>
    rw [View.of_running hrun, View.of_idle rfl, View.watch, List.foldl_cons,
      View.see_settled hevent]
    rfl
  | closed hrun => exact absurd rfl (hopen _)

theorem watch_run {messages : List (Nat × Message)}
    (h : ∀ m ∈ messages, m.2 ≠ .command .shutdown) :
    (View.of c).watch (Session.run c messages).1 = View.of (Session.run c messages).2 := by
  induction messages generalizing c with
  | nil => rfl
  | cons m messages ih =>
    have hm := h m List.mem_cons_self
    rw [run_cons hm, View.watch_append,
      (published m.1 c m.2).watch (receive_ne_cancelled hm),
      ih fun m' hm' => h m' (List.mem_cons_of_mem _ hm')]

/-- Whatever a session has taken in, in whichever order, the events that it published so far tell
an observer how it stands, as long as it is there to take in more. -/
theorem observer_reconstructs (e : Editor) (maxHeight : Nat) (heights : HeightEstimates)
    {messages : List (Nat × Message)} (hgoing : ∀ m ∈ messages, m.2 ≠ .command .shutdown) :
    let c := ({ editor := e, feed := .empty maxHeight heights } : Controller).registerActions
    (View.initial maxHeight).watch (Session.run c messages).1 = View.of (Session.run c messages).2 := by
  intro c
  rw [← View.of_new e maxHeight heights]
  exact watch_run hgoing

/-- A run that is cancelled, another that fails after its outcome came in for the first one too, and
a third one that is still going. -/
theorem observer_reconstructs_third_run :
    let c := ({ editor := { text := ['1'] }, feed := .empty 500 ⟨145, 70⟩ } :
      Controller).registerActions
    let messages : List (Nat × Message) :=
      [(0, .command .toggleRun), (0, .command .toggleRun), (0, .command .toggleRun),
        (4, .outcome 1 (.ok (.ddl ['1']))), (5, .outcome 2 (.error ⟨"late", 0⟩)),
        (0, .command (.setMaxHeight 80)), (0, .command .toggleRun)]
    (∀ m ∈ messages, m.2 ≠ .command .shutdown) ∧
      (View.initial 500).watch (Session.run c messages).1 =
        ⟨.running, some ⟨['1'], 1, 0⟩, ⟨[⟨5, .error, 70, "1", some (.message "late")⟩], 80⟩⟩ := by
  intro c messages
  have hgoing : ∀ m ∈ messages, m.2 ≠ .command .shutdown := by simp [messages]
  refine ⟨hgoing, ?_⟩
  rw [observer_reconstructs { text := ['1'] } 500 ⟨145, 70⟩ hgoing]
  decide +kernel

end Session

/-- The events that a pane has shown tell how it stands, as long as someone looks and its session
has not ended. -/
theorem Pane.watched (e : Editor) (maxHeight : Nat) (heights : HeightEstimates)
    (engine : Scripted.Engine) (rowLimit now : Nat) (deeds : List Deed) :
    let p := deeds.foldl deed (openWith e (.empty maxHeight heights) engine rowLimit now)
    p.alive = true → p.observed = true →
      (View.initial maxHeight).watch p.events = View.of p.controller := by
  intro p halive hobserved
  obtain ⟨messages, h⟩ := served e (.empty maxHeight heights) engine rowLimit now deeds
  have hevents : p.events = _ := h.complete hobserved
  have hcontroller : p.controller = _ := h.controller
  rw [hevents, hcontroller, ← View.of_new e maxHeight heights]
  exact Session.watch_run (h.going halive)

end CaretSql
