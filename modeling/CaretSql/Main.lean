import CaretSql.Program
import Mathlib.Tactic.DeprecateTo

/-! The program: takes its arguments and its surroundings from the system, and gives the answer
back to it. There is no network here, so only scripted answers can be had. -/

namespace CaretSql

def usage : String :=
  "Usage: query-pane [OPTIONS] --file <PATH> [CONNECTION_STRING]\n\n" ++
  "  -f, --file <PATH>         file with SQL text, - for standard input\n" ++
  "      --cursor <ROW:COL>    run the statement at this place\n" ++
  "      --select <RANGE>      run this selection, ROW:COL-ROW:COL\n" ++
  "      --mock-engine         answer from a script instead of a database\n" ++
  "      --output <FORMAT>     text or json\n" ++
  "      --config <PATH>       configuration file\n" ++
  "  -c, --connection <NAME>   connection from the configuration\n" ++
  "  -H, --host <HOST>         database host\n" ++
  "  -p, --port <PORT>         database port\n" ++
  "  -d, --database <DATABASE> database name\n" ++
  "  -U, --user <USER>         database user\n" ++
  "      --max-height <PIXELS> height of the feed\n" ++
  "      --log-file [<PATH>]   log to a file\n" ++
  "  -h, --help\n" ++
  "  -V, --version\n"

def version : String := "query-pane 0.1.0\n"

def fileError : IO.Error → Files.Error
  | .noFileOrDirectory .. => .notFound
  | .inappropriateType _ code _ => if code = 20 then .notDirectory else .isDirectory
  | .alreadyExists .. => .alreadyThere
  | .invalidArgument _ code _ => if code = 36 then .nameTooLong else .nulInName
  | e => .other (toString e)

def readFile (path : Files.Path) : IO (Except Files.Error (List UInt8)) := do
  match ← (IO.FS.readBinFile (String.ofList path)).toBaseIO with
  | .ok content => return .ok content.toList
  | .error e => return .error (fileError e)

def readAll (stream : IO.FS.Stream) : IO (List UInt8) := do
  let mut content := ByteArray.empty
  repeat
    let more ← stream.read 65536
    if more.isEmpty then break
    content := content ++ more
  return content.toList

def openLog (path : Files.Path) : IO (Except LogFile.OpenError Unit) := do
  if let some parent := path.parent? then
    if !parent.isEmpty then
      if let .error e ← (IO.FS.createDirAll (String.ofList parent)).toBaseIO then
        return .error (.directory parent (fileError e))
  match ← (IO.FS.writeFile (String.ofList path) "").toBaseIO with
  | .ok () => return .ok ()
  | .error e => return .error (.file path (fileError e))

/-- milliseconds since the first of January 1970 -/
def clock : IO Nat := do
  return (← Std.Time.Timestamp.now).toMillisecondsSinceUnixEpoch.toInt.toNat

def noNetwork : Postgres.Network := fun _ _ =>
  .error (.unreachable "Network is unreachable (os error 101)")

/-- what a command line finds around it; without one there is nothing to look for -/
def surroundings (c : CommandLine) : IO Surroundings := do
  let home := ((← IO.getEnv "HOME").getD ".").toList
  let configPath := c.configPath home
  let config ← readFile configPath
  let text ← if c.file = CommandLine.standardInput then pure (.error .notFound) else readFile c.file
  let input ← if c.file = CommandLine.standardInput then readAll (← IO.getStdin) else pure []
  return {
    home
    read := fun path => if path = configPath then config else text
    complaint := fun _ => "not a valid configuration"
    input
    environment := {
      host := ← IO.getEnv "PGHOST"
      port := ← IO.getEnv "PGPORT"
      database := ← IO.getEnv "PGDATABASE"
      user := ← IO.getEnv "PGUSER"
      password := ← IO.getEnv "PGPASSWORD" }
    network := noNetwork
    now := ← clock
    timings := ⟨⟨0⟩, ⟨0⟩⟩ }

end CaretSql

open CaretSql in
def main (arguments : List String) : IO UInt32 := do
  let arguments := arguments.map String.toList
  let c := (CommandLine.parse arguments).toOption.getD {}
  let w ← surroundings c
  let log := Program.logPath? w.home c
  let opened ← log.elim (pure (.ok ())) openLog
  let ending := Program.run arguments (fun _ => opened) w
  IO.print ending.output
  match ending with
  | .misused .helpAsked => IO.print usage
  | .misused .versionAsked => IO.print version
  | .misused _ => IO.eprint usage
  | .failed cause true => log.forM fun path => IO.FS.writeFile (String.ofList path) (cause.report ++ "\n")
  | _ => if !ending.complaint.isEmpty then IO.eprintln ending.complaint
  return UInt32.ofNat ending.exitCode
