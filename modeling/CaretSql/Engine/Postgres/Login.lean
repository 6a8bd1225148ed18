import CaretSql.Connection
import CaretSql.Engine.Postgres.Reply

/-! Connecting to a PostgreSQL server. Troubles that may pass are met by trying again; what is
left is told in the words of the connection. -/

namespace CaretSql.Postgres

inductive LoginError
  /-- the address is none -/
  | badAddress (cause : Url.Error)
  /-- the server was not reached -/
  | unreachable (cause : String)
  /-- the server said no -/
  | refused (message : String)
  /-- nobody answered in time -/
  | noAnswer
deriving DecidableEq, Repr

namespace LoginError

def text : LoginError → String
  | .badAddress cause => "error with configuration: " ++ cause.message
  | .unreachable cause => "error communicating with database: " ++ cause
  | .refused message => "error returned from database: " ++ message
  | .noAnswer => "pool timed out while waiting for an open connection"

/-- Does the text have these words, in any letter case? -/
def mentions (words : String) (e : LoginError) : Bool :=
  let s := Character.toLower e.text.toList
  (List.range (s.length + 1)).any fun i => words.toList.isPrefixOf (s.drop i)

/-- the words of troubles that may pass -/
def transientWords : List String :=
  ["connection refused", "timed out", "timeout", "temporarily unavailable", "connection reset",
    "broken pipe"]

def isTransient (e : LoginError) : Bool := transientWords.any e.mentions

def toFault (c : Connection) (e : LoginError) : Fault :=
  let server := c.hostText ++ ":" ++ toString c.port
  let detail :=
    if e.mentions "connection refused" || e.mentions "could not connect" then
      "Cannot connect to " ++ server ++ ". Check that the server is running."
    else if e.mentions "authentication failed" then
      "Authentication failed for user '" ++ c.user.getD "unknown" ++ "'. Check your credentials."
    else if e.mentions "does not exist" && e.mentions "database" then
      "Database '" ++ c.database.getD "unknown" ++ "' does not exist."
    else if e.mentions "timed out" || e.mentions "timeout" then
      "Connection to " ++ server ++ " timed out. The server may be overloaded or unreachable."
    else e.text
  ⟨.connection, detail⟩

end LoginError

abbrev Server := List Char → Reply

/-- what comes of the attempts to log in at an address, counted from zero -/
abbrev Network := String → Nat → Except LoginError Server

def maxAttempts : Nat := 3

/-- Tries from one attempt on, as long as trouble may pass and attempts are left. -/
def attemptFrom (login : Nat → Except LoginError Server) (attempt : Nat) :
    Nat → Except LoginError Server
  | 0 => login attempt
  | left + 1 =>
    match login attempt with
    | .ok server => .ok server
    | .error e => if e.isTransient then attemptFrom login (attempt + 1) left else .error e

def login (network : Network) (address : String) : Except LoginError Server :=
  match Url.parse address.toList with
  | .error cause => .error (.badAddress cause)
  | .ok _ => attemptFrom (network address) 0 (maxAttempts - 1)

def connect (network : Network) (c : Connection) : Except Fault Server := do
  (login network (← c.url)).mapError (LoginError.toFault c)

end CaretSql.Postgres
