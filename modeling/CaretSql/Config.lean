import CaretSql.Connection
import CaretSql.Files.Path
import CaretSql.Json.Notifications
import CaretSql.Toml.Document
import CaretSql.Toml.Json

/-! The configuration: budget and height estimates of the feed, limits of an execution, and named
connections. It is read from a TOML file; what the file leaves out has a default. -/

namespace CaretSql

structure FeedSettings where
  maxHeight : Nat := 500
  successHeight : Nat := 145
  plainHeight : Nat := 70
deriving DecidableEq, Repr

structure ExecutionSettings where
  rowLimit : Nat := 1000
  statementTimeoutSeconds : Nat := 30
deriving DecidableEq, Repr

structure Config where
  feed : FeedSettings := {}
  execution : ExecutionSettings := {}
  connections : List (String × Connection) := []
deriving DecidableEq, Repr

namespace FeedSettings

def heights (s : FeedSettings) : HeightEstimates := ⟨s.successHeight, s.plainHeight⟩

def emptyFeed (s : FeedSettings) : Feed := .empty s.maxHeight s.heights

def toJson (s : FeedSettings) : Json :=
  .object [("max_height", .nat s.maxHeight), ("success_height", .nat s.successHeight),
    ("plain_height", .nat s.plainHeight)]

def ofJson? (lax : Bool) (j : Json) : Option FeedSettings := do
  let r ← Json.Record.ofJson? lax ["max_height", "success_height", "plain_height"] j
  return ⟨← r.withDefault "max_height" Json.height? 500,
    ← r.withDefault "success_height" Json.height? 145,
    ← r.withDefault "plain_height" Json.height? 70⟩

end FeedSettings

namespace ExecutionSettings

def toJson (s : ExecutionSettings) : Json :=
  .object [("row_limit", .nat s.rowLimit), ("statement_timeout_secs", .nat s.statementTimeoutSeconds)]

def ofJson? (lax : Bool) (j : Json) : Option ExecutionSettings := do
  let r ← Json.Record.ofJson? lax ["row_limit", "statement_timeout_secs"] j
  return ⟨← r.withDefault "row_limit" Json.word? 1000,
    ← r.withDefault "statement_timeout_secs" Json.word? 30⟩

end ExecutionSettings

namespace Connection

def toJson (c : Connection) : Json :=
  .object [("host", .ofOption .string c.host), ("port", .nat c.port),
    ("database", .ofOption .string c.database), ("user", .ofOption .string c.user),
    ("password", .ofOption .string c.password)]

def ofJson? (lax : Bool) (j : Json) : Option Connection := do
  let r ← Json.Record.ofJson? lax ["host", "port", "database", "user", "password"] j
  return ⟨← r.optional "host" Json.string?, ← r.withDefault "port" (Json.natBelow? 65536) defaultPort,
    ← r.optional "database" Json.string?, ← r.optional "user" Json.string?,
    ← r.optional "password" Json.string?⟩

end Connection

namespace Config

def connectionsOfJson? (lax : Bool) : Json → Option (List (String × Connection))
  | .object fields => fields.mapM fun (name, j) => (Connection.ofJson? lax j).map (name, ·)
  | _ => none

def toJson (c : Config) : Json :=
  .object [("feed", c.feed.toJson), ("execution", c.execution.toJson),
    ("connections", .object (c.connections.map fun (name, c) => (name, c.toJson)))]

def ofJson? (lax : Bool) (j : Json) : Option Config := do
  let r ← Json.Record.ofJson? lax ["feed", "execution", "connections"] j
  return ⟨← r.withDefault "feed" (FeedSettings.ofJson? lax) {},
    ← r.withDefault "execution" (ExecutionSettings.ofJson? lax) {},
    ← r.withDefault "connections" (connectionsOfJson? lax) []⟩

inductive Unusable
  | noHeight
  | noRows
  | noTime
deriving DecidableEq, Repr

def Unusable.detail : Unusable → String
  | .noHeight => "feed height estimates must be greater than zero"
  | .noRows => "execution.row_limit must be greater than zero"
  | .noTime => "execution.statement_timeout_secs must be greater than zero"

def validate (c : Config) : Except Unusable Unit :=
  if c.feed.successHeight = 0 ∨ c.feed.plainHeight = 0 then .error .noHeight
  else if c.execution.rowLimit = 0 then .error .noRows
  else if c.execution.statementTimeoutSeconds = 0 then .error .noTime
  else .ok ()

inductive LoadError
  | unreadable (cause : Files.Error)
  /-- no TOML, or values that do not fit -/
  | malformed (path : Files.Path) (text : List Char)
  | unusable (cause : Unusable)
deriving DecidableEq, Repr

namespace LoadError

/-- `complaint` is what the reader of TOML says about a text that it does not take. -/
def detail (complaint : List Char → String) : LoadError → String
  | .unreadable cause => "Failed to read config file: " ++ cause.text
  | .malformed path text =>
    "Configuration error in " ++ String.ofList path ++ ":\n  " ++ complaint text
  | .unusable cause => cause.detail

def toFault (complaint : List Char → String) (e : LoadError) : Fault :=
  ⟨.configuration, e.detail complaint⟩

end LoadError

def ofText (path : Files.Path) (s : List Char) : Except LoadError Config := do
  match (Toml.parse? s).bind fun v => ofJson? true v.toJson with
  | none => throw (.malformed path s)
  | some c =>
    c.validate.mapError .unusable
    return c

/-- Is a file that cannot be read like this not there at all? -/
def isAbsence : Files.Error → Bool
  | .notFound | .notDirectory | .nameTooLong | .nulInName => true
  | _ => false

/-- The configuration in a file; a file that is not there leaves everything to the defaults. -/
def ofFile (path : Files.Path) (content : Except Files.Error (List UInt8)) :
    Except LoadError Config :=
  match Files.textOf content with
  | .error e => if isAbsence e then .ok {} else .error (.unreadable e)
  | .ok s => ofText path s

def defaultPath (home : Files.Path) : Files.Path := home ++ "/.config/query-pane/config.toml".toList

def defaultName : String := "default"

/-- The connection of a name; without a name, the default one. -/
def connection? (name : Option String) (c : Config) : Option Connection :=
  c.connections.lookup (name.getD defaultName)

end Config

end CaretSql
