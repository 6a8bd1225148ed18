import CaretSql.Character.LetterCase
import CaretSql.CommandLine.Place
import CaretSql.Config
import CaretSql.LogFile

/-! What a command line asks for: the statement to run, where to run it, and how to report it. -/

namespace CaretSql

inductive OutputFormat
  | text
  | json
deriving DecidableEq, Repr

inductive LogTarget
  | standardError
  | defaultFile
  | file (path : Files.Path)
deriving DecidableEq, Repr

structure CommandLine where
  connectionString : Option (List Char) := none
  host : Option (List Char) := none
  port : Nat := Connection.defaultPort
  database : Option (List Char) := none
  user : Option (List Char) := none
  /-- the name of a connection in the configuration -/
  connection : Option (List Char) := none
  config : Option Files.Path := none
  /-- the file with the text; a dash stands for standard input -/
  file : Files.Path := []
  cursor : Option (List Char) := none
  select : Option (List Char) := none
  mockEngine : Bool := false
  maxHeight : Option Nat := none
  output : List Char := "text".toList
  log : LogTarget := .standardError
deriving DecidableEq, Repr

namespace CommandLine

inductive Invalid
  | place (cause : PlaceError)
  | output (text : List Char)
deriving DecidableEq, Repr

namespace Invalid

def message : Invalid → String
  | .place cause => cause.message
  | .output s => "Invalid output format: " ++ String.ofList s ++ ". Expected: text or json"

def toFault (e : Invalid) : Fault := ⟨.configuration, e.message⟩

end Invalid

/-- Without a caret the text is run from its start. -/
def caret (c : CommandLine) : Except Invalid Position :=
  match c.cursor with
  | none => .ok .origin
  | some s => (Position.parse s).mapError .place

def selection (c : CommandLine) : Except Invalid (Option TextRange) :=
  match c.select with
  | none => .ok none
  | some s => (TextRange.parse s).map some |>.mapError .place

/-- Letter case does not matter. -/
def format (c : CommandLine) : Except Invalid OutputFormat :=
  let name := Character.toLower c.output
  if name = "text".toList then .ok .text
  else if name = "json".toList then .ok .json
  else .error (.output c.output)

def validate (c : CommandLine) : Except Invalid Unit := do
  let _ ← c.caret
  let _ ← c.selection
  let _ ← c.format

/-- The connection that the arguments spell out: an address, or else a host, database or user. -/
def explicitConnection (c : CommandLine) : Except Connection.ParseError (Option Connection) :=
  match c.connectionString with
  | some s => (Connection.parse s).map some
  | none =>
    if c.host.isSome || c.database.isSome || c.user.isSome then
      .ok (some {
        host := c.host.map String.ofList
        port := c.port
        database := c.database.map String.ofList
        user := c.user.map String.ofList })
    else .ok none

def configPath (home : Files.Path) (c : CommandLine) : Files.Path :=
  c.config.getD (Config.defaultPath home)

def standardInput : Files.Path := ['-']

def readText (read : Files.Path → Except Files.Error (List UInt8)) (input : List UInt8)
    (c : CommandLine) : Except Fault (List Char) :=
  let failed (source : Files.Path) (e : Files.Error) : Fault :=
    ⟨.query, "Failed to read " ++ String.ofList source ++ ": " ++ e.text⟩
  if c.file = standardInput then (Files.textOf (.ok input)).mapError (failed "stdin".toList)
  else (Files.textOf (read c.file)).mapError (failed c.file)

end CommandLine

end CaretSql
