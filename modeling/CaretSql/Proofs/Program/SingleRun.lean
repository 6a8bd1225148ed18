import CaretSql.Program
import CaretSql.Proofs.CommandLine.Anchor
import CaretSql.Proofs.Controller.Edit
import CaretSql.Proofs.Feed.Evict
import CaretSql.Proofs.Pane.SingleRun
import CaretSql.Proofs.Request.Selection

/-! One run from the command line with the scripted engine. The statement is the one at the anchor as it
was given, the engine is asked for it once, and the report shows what the engine gave and the one
notification about it, whatever the budget of the feed. -/

namespace CaretSql

variable {c : CommandLine} {w : Surroundings} {config : Config} {text : List Char} {p q : Pane}

theorem Scripted.Engine.outcome_unscripted (timings : Timings) (limit : Nat) (query : List Char) :
    ∃ result, ({ timings } : Scripted.Engine).outcome limit query = .ok result := by
  unfold outcome response defaultResponse
  cases asksForRows query with
  | true => exact ⟨_, rfl⟩
  | false => exact ⟨_, rfl⟩

/-- A result is published before the feed, and both before the session is idle. -/
theorem Session.settle_of_ok {c : Controller} {run : Run} (h : c.inFlight = some run) (now : Nat)
    (result : QueryResult) :
    (settle now run.id (.ok result) c).1 =
      [.resultReady run.id result,
        .feedChanged (Controller.noticed c.feed now run.request.query (.ok result)).2.state,
        .stateChanged .idle] := by
  rw [settle, Controller.complete_of_ok h]
  rfl

theorem Feed.state_notify_empty (maxHeight : Nat) (heights : HeightEstimates) (now : Nat)
    (kind : NotificationKind) (title : String) (detail : Option NotificationDetail) :
    ((empty maxHeight heights).notify now kind title detail).2.state =
      ⟨[⟨(empty maxHeight heights).nextId now, kind, heights.forKind kind, title, detail⟩],
        maxHeight⟩ := by
  have halone (n : Notification) : evict 1 maxHeight [n] = [n] := by
    rw [evict]
    simp
  simp only [notify, add, empty, halone]

/-- The editor runs what the anchor as it was given would run. -/
theorem Program.editor_of_validate (hvalid : c.validate = .ok ())
    (htext : c.readText w.read w.input = .ok text)
    (hfits : ∀ anchor, c.anchor = .ok anchor → ∀ p ∈ anchor.places, Document.Fits ⟨text⟩ p) :
    ∃ anchor e, c.anchor = .ok anchor ∧ editor c w = .ok e ∧
      Request.extract? e.document e.anchor = Request.extract? ⟨text⟩ anchor := by
  obtain ⟨r, hselection, hanchor⟩ | ⟨p, hselection, hcaret, hanchor⟩ :=
    CommandLine.anchor_of_validate hvalid
  · have horders : Document.OrdersOffsets ⟨text⟩ r :=
      Document.ordersOffsets_of_rows (CommandLine.rows_of_selection hselection)
    have hselect : Editor.checkedSelect r { text } = .ok (({ text } : Editor).select r) :=
      Document.checked_eq_ok.mpr ⟨hfits _ hanchor, rfl⟩
    refine ⟨_, ({ text } : Editor).select r, hanchor, ?_, Editor.extract?_select horders⟩
    exact bind_eq_ok.mpr ⟨text, mapError_eq_ok.mpr htext, bind_eq_ok.mpr ⟨some r,
      mapError_eq_ok.mpr hselection, mapError_eq_ok.mpr hselect⟩⟩
  · have hmove : Editor.checkedMoveCaret p { text } = .ok (({ text } : Editor).moveCaret p) :=
      Document.checked_eq_ok.mpr ⟨hfits _ hanchor, rfl⟩
    refine ⟨_, ({ text } : Editor).moveCaret p, hanchor, ?_, Editor.extract?_moveCaret _ p⟩
    exact bind_eq_ok.mpr ⟨text, mapError_eq_ok.mpr htext, bind_eq_ok.mpr ⟨none,
      mapError_eq_ok.mpr hselection, bind_eq_ok.mpr ⟨p, mapError_eq_ok.mpr hcaret,
        mapError_eq_ok.mpr hmove⟩⟩⟩

/-- What a pane at rest makes of one toggle: it publishes what its session has to say about the toggle
and about the engine's answer, and the engine is asked once if there is a statement to run, and else not
at all. -/
theorem Pane.AtRest.toggled (h : AtRest p) (hsend : p.send .toggleRun = .ok q) :
    q.settle.events = p.events ++
      Program.events p.controller (p.engine.outcome p.rowLimit) p.now ∧
    q.settle.engine.executed = p.engine.executed ++
      (Request.extract? p.controller.prepared.document p.controller.prepared.anchor).toList.map
        (·.query) := by
  have htoggle := Controller.toggle_of_idle h.idle
  cases hextract : Request.extract? p.controller.prepared.document p.controller.prepared.anchor with
  | none =>
    rw [Controller.start_of_none hextract] at htoggle
    rw [h.settle_of_nothing hsend htoggle rfl]
    simp [Program.events, Session.handle, Session.apply, htoggle, Session.directiveEvents, h.idle]
  | some request =>
    rw [Controller.start_of_some hextract] at htoggle
    rw [h.settle_of_execute hsend htoggle rfl h.kept]
    simp [Program.events, Session.handle, Session.apply, htoggle, Session.directiveEvents, closed,
      Scripted.Engine.finish, Scripted.Engine.begin]

namespace Program

/-- What comes of one run of a request, if there is one, with an engine that answers like this and was
asked for these statements. -/
structure RunsOnce (answer : List Char → Outcome) (heights : HeightEstimates)
    (request? : Option Request) (report : Report) (statements : List (List Char)) : Prop where
  request : report.request = request?
  asked : statements = request?.toList.map (·.query)
  noError : report.error = none
  nothing : request? = none → report.result = none ∧ report.feed.notifications = []
  announced : ∀ r, request? = some r → ∃ result n,
    answer r.query = .ok result ∧ report.result = some result ∧ report.feed.notifications = [n] ∧
    n.title = String.ofList r.query ∧
    n.kind = (if result.kind = .dql then .success else .info) ∧
    n.height = heights.forKind n.kind

theorem events_of_none {c : Controller} (answer : List Char → Outcome) (now : Nat)
    (hidle : c.inFlight = none)
    (hextract : Request.extract? c.prepared.document c.prepared.anchor = none) :
    events c answer now = [.stateChanged .idle] := by
  simp only [events, Session.handle, Session.apply, Controller.toggle_of_idle hidle,
    Controller.start_of_none hextract, Session.directiveEvents, hidle]

theorem events_of_some {c : Controller} {answer : List Char → Outcome} {now : Nat}
    {request : Request} {result : QueryResult} (hidle : c.inFlight = none)
    (hextract : Request.extract? c.prepared.document c.prepared.anchor = some request)
    (hanswer : answer request.query = .ok result) :
    events c answer now =
      [.runStarted ⟨c.issued + 1, request⟩, .stateChanged .running,
        .resultReady (c.issued + 1) result,
        .feedChanged (Controller.noticed c.feed now request.query (.ok result)).2.state,
        .stateChanged .idle] := by
  have hsettle := Session.settle_of_ok (c := { c with
    editor := c.prepared
    inFlight := some ⟨c.issued + 1, request⟩
    issued := c.issued + 1 }) rfl now result
  simp only [events, Session.handle, Session.apply, Controller.toggle_of_idle hidle,
    Controller.start_of_some hextract, Session.directiveEvents, hanswer]
  exact congrArg ([.runStarted ⟨c.issued + 1, request⟩, .stateChanged .running] ++ ·) hsettle

theorem extract?_registerActions (c : Controller) :
    Request.extract? c.registerActions.prepared.document c.registerActions.prepared.anchor =
      Request.extract? c.editor.document c.editor.anchor :=
  (Controller.alike_registerActions c).extract?

/-- With an empty feed and an engine that never fails, a session's events tell what comes of what its
editor would send. -/
theorem runsOnce_events {answer : List Char → Outcome} (e : Editor) (maxHeight : Nat)
    (heights : HeightEstimates) (now : Nat) (hanswer : ∀ query, ∃ result, answer query = .ok result) :
    let c : Controller := { editor := e, feed := .empty maxHeight heights }
    RunsOnce answer heights (Request.extract? e.document e.anchor)
      (.ofEvents (events c.registerActions answer now))
      ((Request.extract? e.document e.anchor).toList.map (·.query)) := by
  intro c
  have hprepared := extract?_registerActions c
  cases hextract : Request.extract? e.document e.anchor with
  | none =>
    rw [events_of_none answer now rfl (hprepared.trans hextract)]
    exact ⟨rfl, rfl, rfl, fun _ => ⟨rfl, rfl⟩, nofun⟩
  | some request =>
    obtain ⟨result, hresult⟩ := hanswer request.query
    have hfeed : (Controller.noticed c.registerActions.feed now request.query
        (.ok result)).2.state = _ :=
      Feed.state_notify_empty maxHeight heights now (Controller.announce result).1
        (String.ofList request.query) (Controller.announce result).2
    rw [events_of_some rfl (hprepared.trans hextract) hresult, hfeed]
    refine ⟨rfl, rfl, rfl, nofun, fun r hr => ?_⟩
    obtain rfl := Option.some.inj hr
    refine ⟨result, _, hresult, rfl, rfl, rfl, ?_, rfl⟩
    unfold Controller.announce
    cases result.kind <;> rfl

/-- A pane that was just opened publishes the events of one run, and asks its engine for what its
editor would send. -/
theorem toggled_openWith {e : Editor} {f : Feed} {engine : Scripted.Engine} {limit now : Nat}
    (hungated : engine.permits = none)
    (hsend : (Pane.openWith e f engine limit now).send .toggleRun = .ok q) :
    q.settle.events = events ({ editor := e, feed := f } : Controller).registerActions
        (engine.outcome limit) now ∧
      q.settle.engine.executed = engine.executed ++
        (Request.extract? e.document e.anchor).toList.map (·.query) := by
  obtain ⟨hevents, hexecuted⟩ := (Pane.atRest_openWith e f hungated limit now).toggled hsend
  refine ⟨hevents.trans (List.nil_append _), hexecuted.trans ?_⟩
  have hprepared := extract?_registerActions { editor := e, feed := f }
  exact congrArg (fun request? => engine.executed ++ request?.toList.map (·.query)) hprepared

theorem config_of_file
    (h : Config.ofFile (c.configPath w.home) (w.read (c.configPath w.home)) = .ok config) :
    ∃ config', Program.config c w = .ok config' ∧ config'.execution = config.execution ∧
      config'.feed.emptyFeed =
        .empty (c.maxHeight.getD config.feed.maxHeight) config.feed.heights := by
  refine ⟨_, bind_eq_ok.mpr ⟨config, mapError_eq_ok.mpr h, rfl⟩, ?_⟩
  cases c.maxHeight <;> exact ⟨rfl, rfl⟩

theorem engine_of_mock (h : c.mockEngine = true) (config : Config) (w : Surroundings) :
    engine c config w =
      .ok (({ timings := w.timings } : Scripted.Engine).outcome config.execution.rowLimit) := by
  unfold engine
  rw [if_pos h]
  rfl

/-- For every text, anchor, configuration and budget: the single toggle of a run from the command line
with the scripted engine is reported as what comes of the request at the anchor as it was given, and
that request is all that the engine is asked for. -/
theorem command_line_runs_once (hvalid : c.validate = .ok ()) (hmock : c.mockEngine = true)
    (hconfig : Config.ofFile (c.configPath w.home) (w.read (c.configPath w.home)) = .ok config)
    (htext : c.readText w.read w.input = .ok text)
    (hfits : ∀ anchor, c.anchor = .ok anchor → ∀ p ∈ anchor.places, Document.Fits ⟨text⟩ p) :
    ∃ anchor e report p, c.anchor = .ok anchor ∧ editor c w = .ok e ∧
      Program.report c w = .ok report ∧
      (Pane.openWith e (.empty (c.maxHeight.getD config.feed.maxHeight) config.feed.heights)
        { timings := w.timings } config.execution.rowLimit w.now).send .toggleRun = .ok p ∧
      Report.ofEvents p.settle.events = report ∧
      RunsOnce (({ timings := w.timings } : Scripted.Engine).outcome config.execution.rowLimit)
        config.feed.heights (Request.extract? ⟨text⟩ anchor) report p.settle.engine.executed := by
  obtain ⟨anchor, e, hanchor, heditor, hextract⟩ := editor_of_validate hvalid htext hfits
  obtain ⟨config', hconfig', hexecution, hfeed⟩ := config_of_file hconfig
  have hungated : ({ timings := w.timings } : Scripted.Engine).permits = none := rfl
  have hrest := Pane.atRest_openWith e
    (.empty (c.maxHeight.getD config.feed.maxHeight) config.feed.heights) hungated
    config.execution.rowLimit w.now
  obtain ⟨p, hsend⟩ : ∃ p, Pane.send .toggleRun _ = .ok p := ⟨_, hrest.send_eq .toggleRun⟩
  obtain ⟨hevents, hexecuted⟩ := toggled_openWith hungated hsend
  have hruns := runsOnce_events e (c.maxHeight.getD config.feed.maxHeight) config.feed.heights w.now
    (Scripted.Engine.outcome_unscripted w.timings config.execution.rowLimit)
  refine ⟨anchor, e, _, p, hanchor, heditor, ?_, hsend, rfl, ?_⟩
  · refine bind_eq_ok.mpr ⟨(), mapError_eq_ok.mpr hvalid, bind_eq_ok.mpr ⟨config',
      mapError_eq_ok.mpr hconfig', bind_eq_ok.mpr ⟨e, heditor, bind_eq_ok.mpr ⟨_,
        mapError_eq_ok.mpr (engine_of_mock hmock config' w), ?_⟩⟩⟩⟩
    rw [hevents, hexecution, hfeed]
    rfl
  · rw [hevents, hexecuted, List.nil_append, ← hextract]
    exact hruns

/-- A selection made backwards from far behind the text, with no configuration and no budget. -/
theorem command_line_runs_once_backwards :
    let c : CommandLine :=
      { file := CommandLine.standardInput, select := some "9:9-1:2".toList, mockEngine := true,
        maxHeight := some 0 }
    let w : Surroundings :=
      { home := [], read := fun _ => .error .notFound, complaint := fun _ => ""
        input := [0x78, 0x3b, 0x57, 0x49, 0x54, 0x48],
        environment := {}, network := fun _ _ => .error .noAnswer, now := 7
        timings := ⟨⟨0⟩, ⟨0⟩⟩ }
    c.validate = .ok () ∧ c.mockEngine = true ∧
      Config.ofFile (c.configPath w.home) (w.read (c.configPath w.home)) = .ok {} ∧
      c.readText w.read w.input = .ok "x;WITH".toList ∧
      ∃ report n, Program.report c w = .ok report ∧ report.request = some ⟨"WITH".toList, 1, 2⟩ ∧
        report.feed.notifications = [n] ∧ (n.title, n.kind, n.height) = ("WITH", .success, 145) := by
  intro c w
  have hvalid : c.validate = .ok () := by decide +kernel
  have hconfig : Config.ofFile (c.configPath w.home) (w.read (c.configPath w.home)) = .ok {} := rfl
  have htext : c.readText w.read w.input = .ok "x;WITH".toList := by decide +kernel
  have hselection : c.selection = .ok (some ⟨⟨9, 9⟩, ⟨1, 2⟩⟩) := by decide +kernel
  have hgiven : c.anchor = .ok (.selection ⟨⟨9, 9⟩, ⟨1, 2⟩⟩) := bind_eq_ok.mpr ⟨_, hselection, rfl⟩
  obtain ⟨anchor, e, report, p, hanchor, -, hreport, -, -, hruns⟩ :=
    command_line_runs_once hvalid rfl hconfig htext fun anchor hanchor => by
      obtain rfl := Except.ok.inj (hgiven.symm.trans hanchor)
      decide +kernel
  obtain rfl := Except.ok.inj (hgiven.symm.trans hanchor)
  have hextract : Request.extract? ⟨"x;WITH".toList⟩ (.selection ⟨⟨9, 9⟩, ⟨1, 2⟩⟩) =
      some ⟨"WITH".toList, 1, 2⟩ := by decide +kernel
  obtain ⟨result, n, hresult, -, hfeed, htitle, hkind, hheight⟩ := hruns.announced _ hextract
  have hrows : (({ timings := w.timings } : Scripted.Engine).outcome 1000 "WITH".toList).map
      (·.kind) = .ok .dql := by decide +kernel
  have hdql : result.kind = .dql := by
    rw [hresult] at hrows
    exact Except.ok.inj hrows
  rw [if_pos hdql] at hkind
  refine ⟨hvalid, rfl, hconfig, htext, report, n, hreport, hruns.request.trans hextract, hfeed, ?_⟩
  rw [hheight, hkind, htitle]
  rfl

end Program

end CaretSql
