import CaretSql.CommandLine.Arguments
import CaretSql.Engine.Postgres.Login
import CaretSql.Engine.Scripted
import CaretSql.Report

/-! One run from the command line: the text goes into an editor, the statement at the caret is
run once, and what comes of it is reported. -/

namespace CaretSql

/-- What a run finds around it. -/
structure Surroundings where
  home : Files.Path
  read : Files.Path → Except Files.Error (List UInt8)
  /-- what the reader of TOML says about a text that it does not take -/
  complaint : List Char → String
  /-- standard input -/
  input : List UInt8
  environment : Connection.Environment
  network : Postgres.Network
  /-- what the clock shows, in milliseconds -/
  now : Nat
  /-- what the stopwatch shows -/
  timings : Timings

namespace Program

inductive ConnectionError
  | invalid (cause : Connection.ParseError)
  | unknownName (name : List Char)
  | none
deriving DecidableEq, Repr

def ConnectionError.toFault : ConnectionError → Fault
  | .invalid cause => cause.toFault
  | .unknownName name =>
    ⟨.configuration, "Connection '" ++ String.ofList name ++ "' not found in config file"⟩
  | .none =>
    ⟨.configuration,
      "No database connection configured. Use --mock-engine or pass a connection string"⟩

/-- The connection of a run before the environment fills it up: the one that the arguments spell
out, else the one that they name, else the default one of the configuration. -/
def chosenConnection (c : CommandLine) (config : Config) : Except ConnectionError Connection :=
  match c.explicitConnection with
  | .error cause => .error (.invalid cause)
  | .ok (some connection) => .ok connection
  | .ok none =>
    match c.connection with
    | some name =>
      match config.connection? (some (String.ofList name)) with
      | some connection => .ok connection
      | none => .error (.unknownName name)
    | none =>
      match config.connection? none with
      | some connection => .ok connection
      | none => .error .none

def connection (c : CommandLine) (config : Config) (env : Connection.Environment) :
    Except ConnectionError Connection :=
  (chosenConnection c config).map (·.withDefaults env)

def config (c : CommandLine) (w : Surroundings) : Except Fault Config := do
  let path := c.configPath w.home
  let config ← (Config.ofFile path (w.read path)).mapError (·.toFault w.complaint)
  return match c.maxHeight with
    | some maxHeight => { config with feed := { config.feed with maxHeight } }
    | none => config

/-- Why a run comes to no report. -/
inductive Failure
  | told (cause : Fault)
  | overflow
deriving DecidableEq, Repr

def editor (c : CommandLine) (w : Surroundings) : Except Failure Editor := do
  let editor : Editor := { text := ← (c.readText w.read w.input).mapError .told }
  match ← c.selection.mapError (.told ·.toFault) with
  | some r => (editor.checkedSelect r).mapError fun _ => .overflow
  | none =>
    let caret ← c.caret.mapError (.told ·.toFault)
    (editor.checkedMoveCaret caret).mapError fun _ => .overflow

def engine (c : CommandLine) (config : Config) (w : Surroundings) :
    Except Fault (List Char → Outcome) := do
  let limit := config.execution.rowLimit
  if c.mockEngine then
    return ({ timings := w.timings } : Scripted.Engine).outcome limit
  let connection ← (connection c config w.environment).mapError ConnectionError.toFault
  let server ← Postgres.connect w.network connection
  return fun query => Postgres.outcome config.execution.statementTimeoutSeconds limit w.timings query
    (server query)

def events (c : Controller) (answer : List Char → Outcome) (now : Nat) : List Event :=
  let (events, c) := Session.handle c .toggleRun
  match c.inFlight with
  | none => events
  | some run => events ++ (Session.settle now run.id (answer run.request.query) c).1

def report (c : CommandLine) (w : Surroundings) : Except Failure Report := do
  c.validate.mapError (.told ·.toFault)
  let config ← (config c w).mapError .told
  let editor ← editor c w
  let answer ← (engine c config w).mapError .told
  let controller : Controller := { editor, feed := config.feed.emptyFeed }
  return .ofEvents (events controller.registerActions answer w.now)

def written (format : OutputFormat) (r : Report) : String :=
  match format with
  | .text => r.text
  | .json => r.jsonText

inductive Ending
  | misused (cause : CommandLine.UsageError)
  /-- `logged`: the failure was told to the log file -/
  | failed (cause : Fault) (logged : Bool)
  | overflowed
  | reported (output : String)
deriving DecidableEq, Repr

namespace Ending

def exitCode : Ending → Nat
  | .misused .helpAsked | .misused .versionAsked => 0
  | .misused _ => 2
  | .failed _ _ => 1
  | .overflowed => 101
  | .reported _ => 0

def output : Ending → String
  | .reported s => s
  | _ => ""

def complaint : Ending → String
  | .failed cause false => cause.report
  | .overflowed => "attempt to add with overflow"
  | _ => ""

end Ending

def logPath? (home : Files.Path) (c : CommandLine) : Option Files.Path :=
  match c.log with
  | .standardError => none
  | .defaultFile => some (LogFile.defaultPath home)
  | .file path => some path

def run (arguments : List (List Char)) (openLog : Files.Path → Except LogFile.OpenError Unit)
    (w : Surroundings) : Ending :=
  match CommandLine.parse arguments with
  | .error cause => .misused cause
  | .ok c =>
    let log := logPath? w.home c
    match log.elim (.ok ()) openLog with
    | .error cause => .failed cause.toFault false
    | .ok () =>
      match report c w, c.format with
      | .ok r, .ok format => .reported (written format r)
      | .ok _, .error cause => .failed cause.toFault log.isSome
      | .error (.told cause), _ => .failed cause log.isSome
      | .error .overflow, _ => .overflowed

end Program

end CaretSql
