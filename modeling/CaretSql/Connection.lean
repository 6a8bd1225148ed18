import CaretSql.Fault
import CaretSql.Text.Numeral
import CaretSql.Url.Parse

/-! Where the database is and who asks. All parts but the port may be left open. -/

namespace CaretSql

structure Connection where
  host : Option String := none
  port : Nat := 5432
  database : Option String := none
  user : Option String := none
  password : Option String := none
deriving DecidableEq, Repr

namespace Connection

def defaultPort : Nat := 5432

inductive ParseError
  | badUrl (cause : Url.Error)
  | badScheme (scheme : List Char)
deriving DecidableEq, Repr

namespace ParseError

def detail : ParseError → String
  | .badUrl cause => "Invalid connection string: " ++ cause.message
  | .badScheme scheme =>
    "Invalid scheme '" ++ String.ofList scheme ++ "'. Expected 'postgres' or 'postgresql'"

def toFault (e : ParseError) : Fault := ⟨.configuration, e.detail⟩

end ParseError

def schemes : List (List Char) := ["postgres".toList, "postgresql".toList]

/-- The database is the path without its slash; empty parts count as left open. -/
def ofUrl (u : Url) : Connection where
  host := u.host.map String.ofList
  port := u.port.getD defaultPort
  database := match u.path with
    | '/' :: c :: rest => some (String.ofList (c :: rest))
    | _ => none
  user := if u.username.isEmpty then none else some (String.ofList u.username)
  password := u.password.map String.ofList

def parse (s : List Char) : Except ParseError Connection :=
  match Url.parse s with
  | .error cause => .error (.badUrl cause)
  | .ok u => if u.scheme ∈ schemes then .ok (ofUrl u) else .error (.badScheme u.scheme)

def hostText (c : Connection) : String := c.host.getD "localhost"

def noDatabase : Fault := ⟨.configuration, "Database name is required"⟩

/-- The address of the database. Its parts are written as they are; a password without a user
is left out. -/
def url (c : Connection) : Except Fault String :=
  match c.database with
  | none => .error noDatabase
  | some database =>
    let userinfo := match c.user, c.password with
      | none, _ => ""
      | some user, none => user ++ "@"
      | some user, some password => user ++ ":" ++ password ++ "@"
    .ok ("postgres://" ++ userinfo ++ c.hostText ++ ":" ++ toString c.port ++ "/" ++ database)

/-- for display, without the password -/
def display (c : Connection) : String :=
  c.database.getD "unknown" ++ " @ " ++ c.hostText ++ ":" ++ toString c.port

structure Environment where
  host : Option String := none
  port : Option String := none
  database : Option String := none
  user : Option String := none
  password : Option String := none
deriving DecidableEq, Repr

/-- The usual port counts as left open; a variable that is no port number is passed over. -/
def withDefaults (env : Environment) (c : Connection) : Connection where
  host := c.host.or env.host
  port := if c.port = defaultPort then
      (env.port.bind fun s => Text.Numeral.parse? 65536 s.toList).getD c.port
    else c.port
  database := c.database.or env.database
  user := c.user.or env.user
  password := c.password.or env.password

end Connection

end CaretSql
