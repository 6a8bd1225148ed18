import CaretSql.Program
import CaretSql.Proofs.CommandLine.Port
import CaretSql.Proofs.Connection.Table

/-! Which connection a run makes. One source is chosen, whatever the environment holds, and the
environment is asked for what that source leaves open. -/

namespace CaretSql

open Connection

variable {c : CommandLine} {config : Config} {conn : Connection} {s : CommandLine.Scan}
  {w : Surroundings} {arguments : List (List Char)}

namespace CommandLine

/-- Do the arguments spell out parts of a connection? The port alone is none. -/
def spellsParts (c : CommandLine) : Bool := c.host.isSome || c.database.isSome || c.user.isSome

def spelled (c : CommandLine) : Connection where
  host := c.host.map String.ofList
  port := c.port
  database := c.database.map String.ofList
  user := c.user.map String.ofList

def tableName (c : CommandLine) : String := (c.connection.map String.ofList).getD Config.defaultName

end CommandLine

def Given.ofScan (s : CommandLine.Scan) : Given :=
  ofConnection s.line.spelled (if .port ∈ s.seen then some s.line.port else none)

theorem Given.connection_ofScan (h : s.Told) : (ofScan s).connection = s.line.spelled := by
  apply connection_ofConnection
  by_cases hport : .port ∈ s.seen
  · rw [if_pos hport]
    rfl
  · rw [if_neg hport]
    exact h hport

/-- The source of a connection is the address among the arguments, else the parts that they spell
out, else a connection of the configuration: the one that they name, or the default one. This is
what it gives. -/
inductive Chosen (s : CommandLine.Scan) (table? : String → Option Json) : Given → Prop
  | address {text : List Char} {u : Url} (htext : s.line.connectionString = some text)
    (hurl : Url.parse text = .ok u) (hscheme : u.scheme ∈ schemes) : Chosen s table? (.ofUrl u)
  | parts (htext : s.line.connectionString = none) (hparts : s.line.spellsParts = true) :
    Chosen s table? (.ofScan s)
  | table {j : Json} {g : Given} (htext : s.line.connectionString = none)
    (hparts : s.line.spellsParts = false) (hj : table? s.line.tableName = some j)
    (hg : Given.ofTable? j = some g) : Chosen s table? g

namespace Program

theorem chosenConnection_of_address {text : List Char} (htext : c.connectionString = some text) :
    chosenConnection c config = .ok conn ↔ Connection.parse text = .ok conn := by
  have hexplicit : c.explicitConnection = (Connection.parse text).map some := by
    rw [CommandLine.explicitConnection, htext]
  rw [chosenConnection, hexplicit]
  cases Connection.parse text <;> simp [Except.map]

theorem chosenConnection_of_parts (htext : c.connectionString = none)
    (hparts : c.spellsParts = true) : chosenConnection c config = .ok c.spelled := by
  unfold CommandLine.spellsParts at hparts
  simp only [chosenConnection, CommandLine.explicitConnection, htext, hparts, if_true]
  rfl

theorem chosenConnection_of_table (htext : c.connectionString = none)
    (hparts : c.spellsParts = false) :
    chosenConnection c config = .ok conn ↔
      config.connection? (c.connection.map String.ofList) = some conn := by
  unfold CommandLine.spellsParts at hparts
  simp only [chosenConnection, CommandLine.explicitConnection, htext, hparts]
  cases c.connection with
  | none => cases h : config.connection? none <;> simp [h]
  | some name => cases h : config.connection? (some (String.ofList name)) <;> simp [h]

theorem connection?_config (h : Program.config c w = .ok config) (name : Option String) :
    config.connection? name = (Config.table? (w.read (c.configPath w.home))
      (name.getD Config.defaultName)).bind (ofJson? true) := by
  obtain ⟨loaded, hloaded, h⟩ := bind_eq_ok.mp h
  have hsame : config.connections = loaded.connections := by
    rw [← Except.ok.inj h]
    cases c.maxHeight <;> rfl
  rw [← Config.connection?_of_ofFile (mapError_eq_ok.mp hloaded) name, Config.connection?, hsame]
  rfl

theorem chosenConnection_eq_ok (hs : s.Told) (hconfig : Program.config s.line w = .ok config)
    (conn : Connection) :
    chosenConnection s.line config = .ok conn ↔
      ∃ g, Chosen s (Config.table? (w.read (s.line.configPath w.home))) g ∧
        g.connection = conn := by
  -- the sources are looked at in turn, and each one rules out those behind it
  cases htext : s.line.connectionString with
  | some text =>
    rw [chosenConnection_of_address htext, Connection.parse_eq_ok]
    constructor
    · rintro ⟨u, hurl, hscheme, rfl⟩
      exact ⟨_, .address htext hurl hscheme, Given.connection_ofUrl u⟩
    · rintro ⟨g, hg, rfl⟩
      cases hg with
      | address htext' hurl hscheme =>
        obtain rfl := Option.some.inj (htext'.symm.trans htext)
        exact ⟨_, hurl, hscheme, Given.connection_ofUrl _⟩
      | parts htext' => cases htext.symm.trans htext'
      | table htext' => cases htext.symm.trans htext'
  | none =>
    cases hparts : s.line.spellsParts with
    | true =>
      rw [chosenConnection_of_parts htext hparts]
      constructor
      · intro h
        obtain rfl := Except.ok.inj h
        exact ⟨_, .parts htext hparts, Given.connection_ofScan hs⟩
      · rintro ⟨g, hg, rfl⟩
        cases hg with
        | address htext' => cases htext.symm.trans htext'
        | parts => rw [Given.connection_ofScan hs]
        | table _ hparts' => cases hparts.symm.trans hparts'
    | false =>
      rw [chosenConnection_of_table htext hparts, connection?_config hconfig,
        Option.bind_eq_some_iff]
      constructor
      · rintro ⟨j, hj, h⟩
        rw [← Given.connection_ofTable?, Option.map_eq_some_iff] at h
        obtain ⟨g, hg, rfl⟩ := h
        exact ⟨g, .table htext hparts hj hg, rfl⟩
      · rintro ⟨g, hg, rfl⟩
        cases hg with
        | address htext' => cases htext.symm.trans htext'
        | parts _ hparts' => cases hparts.symm.trans hparts'
        | table _ _ hj hg =>
          exact ⟨_, hj, by rw [← Given.connection_ofTable?, hg, Option.map_some]⟩

end Program

/-- The environment is asked for the parts that the chosen source leaves open, and besides only for
a port that is the usual one. -/
theorem environment_fills_gaps (hparse : CommandLine.parse arguments = .ok c)
    (hconfig : Program.config c w = .ok config) :
    ∃ s, CommandLine.scanned arguments = .ok s ∧ s.line = c ∧
      (∀ g, Chosen s (Config.table? (w.read (c.configPath w.home))) g →
        ∃ conn, Program.connection c config w.environment = .ok conn ∧
          g.Fills w.environment conn) ∧
      ∀ conn, Program.connection c config w.environment = .ok conn →
        ∃ g, Chosen s (Config.table? (w.read (c.configPath w.home))) g ∧
          g.Fills w.environment conn := by
  obtain ⟨s, hs, rfl⟩ := CommandLine.exists_scanned hparse
  have hchosen := Program.chosenConnection_eq_ok (CommandLine.told_of_scanned hs) hconfig
  refine ⟨s, hs, rfl, ?_, ?_⟩
  · intro g hg
    exact ⟨_, map_eq_ok.mpr ⟨_, (hchosen _).mpr ⟨g, hg, rfl⟩, rfl⟩, Given.fills g _⟩
  · intro conn h
    obtain ⟨chosen, hc, rfl⟩ := map_eq_ok.mp h
    obtain ⟨g, hg, rfl⟩ := (hchosen chosen).mp hc
    exact ⟨g, hg, Given.fills g _⟩

def Surroundings.bare (environment : Environment) : Surroundings where
  home := []
  read _ := .error .notFound
  complaint _ := ""
  input := []
  environment := environment
  network _ _ := .error .noAnswer
  now := 0
  timings := ⟨⟨0⟩, ⟨0⟩⟩

/-- The environment gives way to a port among the arguments, and tells the user. -/
theorem environment_fills_gaps_of_host :
    let arguments := ["-f", "q.sql", "-H", "h", "-p", "6000"].map String.toList
    let c : CommandLine := { host := some "h".toList, port := 6000, file := "q.sql".toList }
    let w := Surroundings.bare { port := some "6543", user := some "u" }
    CommandLine.parse arguments = .ok c ∧ Program.config c w = .ok {} ∧
      ∃ conn, Program.connection c {} w.environment = .ok conn ∧ conn.port = 6000 ∧
        conn.user = some "u" := by
  intro arguments c w
  have hparse : CommandLine.parse arguments = .ok c := by decide +kernel
  have hconfig : Program.config c w = .ok {} := rfl
  have hscanned : CommandLine.scanned arguments =
      .ok { line := c, seen := [.port, .host, .file] } := rfl
  obtain ⟨s, hs, hline, hgiven, -⟩ := environment_fills_gaps hparse hconfig
  obtain rfl := Except.ok.inj (hscanned.symm.trans hs)
  obtain ⟨conn, hconn, hfills⟩ := hgiven _ (.parts rfl rfl)
  exact ⟨hparse, hconfig, conn, hconn, hfills.port 6000 rfl (by decide), hfills.user⟩

/-- A given port that is the usual one is given up for that of the environment. -/
theorem usual_port_is_given_up :
    ¬ ∀ (arguments : List (List Char)) (w : Surroundings) (s : CommandLine.Scan) (config : Config)
      (g : Given) (conn : Connection), CommandLine.parse arguments = .ok s.line →
      CommandLine.scanned arguments = .ok s → Program.config s.line w = .ok config →
      Chosen s (Config.table? (w.read (s.line.configPath w.home))) g →
      Program.connection s.line config w.environment = .ok conn →
      ∀ n, g.port = some n → conn.port = n := by
  intro h
  let c : CommandLine := { host := some "h".toList, file := "q.sql".toList }
  have hport := h (["-f", "q.sql", "-H", "h", "-p", "5432"].map String.toList)
    (.bare { port := some "6543" }) { line := c, seen := [.port, .host, .file] } {} _
    { host := some "h", port := 6543 } (by decide +kernel) rfl rfl (.parts rfl rfl)
    (by decide +kernel) 5432 rfl
  exact absurd hport (by decide)

end CaretSql
