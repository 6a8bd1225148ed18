import CaretSql.Config

/-! What the source of a connection spells out, port included, and what the environment makes of it.
A connection does not tell whether its port was given, so the usual one is taken for none. -/

namespace CaretSql

/-- The parts of a connection that its source spells out. -/
structure Given where
  host : Option String
  port : Option Nat
  database : Option String
  user : Option String
  password : Option String
deriving DecidableEq

open Connection

def Connection.Environment.port? (env : Environment) : Option Nat :=
  env.port.bind fun s => Text.Numeral.parse? 65536 s.toList

theorem Connection.parse_eq_ok {text : List Char} {c : Connection} :
    Connection.parse text = .ok c ↔
      ∃ u, Url.parse text = .ok u ∧ u.scheme ∈ schemes ∧ c = ofUrl u := by
  unfold Connection.parse
  cases Url.parse text with
  | error cause => simp
  | ok u =>
    by_cases h : u.scheme ∈ schemes
    · simp [h, eq_comm]
    · simp [h]

namespace Given

variable {c : Connection} {port : Option Nat}

def connection (g : Given) : Connection := { g with port := g.port.getD defaultPort }

/-- All parts of a connection but the port tell themselves whether they were given. -/
def ofConnection (c : Connection) (port : Option Nat) : Given := { c with port }

def ofUrl (u : Url) : Given := ofConnection (Connection.ofUrl u) u.port

def fieldNames : List String := ["host", "port", "database", "user", "password"]

def ofTable? (j : Json) : Option Given := do
  let c ← Connection.ofJson? true j
  let r ← Json.Record.ofJson? true fieldNames j
  return ofConnection c ((r.fields.lookup "port").map fun _ => c.port)

theorem connection_ofConnection (h : c.port = port.getD defaultPort) :
    (ofConnection c port).connection = c := by
  rw [connection, ofConnection, ← h]

theorem connection_ofUrl (u : Url) : (ofUrl u).connection = Connection.ofUrl u :=
  connection_ofConnection rfl

/-- A connection of the file is a record, and has the usual port unless that has a port. -/
theorem record_of_ofJson? {j : Json} (h : Connection.ofJson? true j = some c) :
    ∃ r, Json.Record.ofJson? true fieldNames j = some r ∧
      (r.fields.lookup "port" = none → c.port = defaultPort) := by
  obtain ⟨r, hr, h⟩ := Option.bind_eq_some_iff.mp h
  obtain ⟨host, -, h⟩ := Option.bind_eq_some_iff.mp h
  obtain ⟨n, hport, h⟩ := Option.bind_eq_some_iff.mp h
  obtain ⟨database, -, h⟩ := Option.bind_eq_some_iff.mp h
  obtain ⟨user, -, h⟩ := Option.bind_eq_some_iff.mp h
  obtain ⟨password, -, h⟩ := Option.bind_eq_some_iff.mp h
  obtain rfl := Option.some.inj h
  refine ⟨r, hr, fun hnone => ?_⟩
  rw [Json.Record.withDefault, hnone] at hport
  exact (Option.some.inj hport).symm

theorem connection_ofTable? (j : Json) :
    (ofTable? j).map connection = Connection.ofJson? true j := by
  cases h : Connection.ofJson? true j with
  | none => rw [ofTable?, h]; rfl
  | some c =>
    obtain ⟨r, hr, hport⟩ := record_of_ofJson? h
    have htable : ofTable? j =
        some (ofConnection c ((r.fields.lookup "port").map fun _ => c.port)) := by
      rw [ofTable?, h]
      change (Json.Record.ofJson? true fieldNames j).bind _ = _
      rw [hr]
      rfl
    rw [htable, Option.map_some, connection_ofConnection]
    cases hlookup : r.fields.lookup "port" with
    | none => exact hport hlookup
    | some => rfl

/-- What becomes of a connection: the environment is asked for the parts that were not given, and
for the port if the usual one was. -/
structure Fills (g : Given) (env : Environment) (c : Connection) : Prop where
  host : c.host = g.host.or env.host
  database : c.database = g.database.or env.database
  user : c.user = g.user.or env.user
  password : c.password = g.password.or env.password
  port : ∀ n, g.port = some n → n ≠ defaultPort → c.port = n
  gap : g.port = none ∨ g.port = some defaultPort → c.port = env.port?.getD defaultPort
  settled : c.withDefaults env = c

theorem port_withDefaults (env : Environment) (c : Connection) :
    (c.withDefaults env).port =
      if c.port = defaultPort then env.port?.getD defaultPort else c.port := by
  unfold withDefaults
  dsimp only
  split
  · next h => rw [h]; rfl
  · rfl

theorem withDefaults_idem (env : Environment) (c : Connection) :
    (c.withDefaults env).withDefaults env = c.withDefaults env := by
  have hport : ((c.withDefaults env).withDefaults env).port = (c.withDefaults env).port := by
    rw [port_withDefaults, port_withDefaults]
    by_cases h : c.port = defaultPort
    · rw [if_pos h, ite_self]
    · rw [if_neg h, if_neg h]
  have hpart (a b : Option String) : (a.or b).or b = a.or b := by
    rw [Option.or_assoc, Option.or_self]
  exact (Connection.mk.injEq ..).mpr ⟨hpart .., hport, hpart .., hpart .., hpart ..⟩

theorem fills (g : Given) (env : Environment) : Fills g env (g.connection.withDefaults env) where
  host := rfl
  database := rfl
  user := rfl
  password := rfl
  port n hport hne := by
    have hn : g.connection.port = n := by rw [connection, hport, Option.getD_some]
    rw [port_withDefaults, hn, if_neg hne]
  gap h := by
    have husual : g.connection.port = defaultPort := by
      rcases h with h | h <;> simp [connection, h]
    rw [port_withDefaults, if_pos husual]
  settled := withDefaults_idem env _

end Given
end CaretSql
