import CaretSql.CommandLine.Basic

/-! The grammar of the arguments. A switch's value is attached to it or is the next argument; a
separate value is looked at when the next switch, or a free argument, or the end shows that the
switch is done with. -/

namespace CaretSql.CommandLine

inductive UsageError
  | missingRequired
  | unknownArgument
  | missingValue
  | badValue
  | conflict
  | tooManyValues
  | helpAsked
  | versionAsked
deriving DecidableEq, Repr

inductive Switch
  | host | port | database | user | connection | config | file | cursor | select | mockEngine
  | maxHeight | output | logFile | help | version
deriving DecidableEq, Repr

inductive ValueRule
  | never
  | always
  | maybe
deriving DecidableEq, Repr

namespace Switch

def all : List Switch :=
  [.host, .port, .database, .user, .connection, .config, .file, .cursor, .select, .mockEngine,
    .maxHeight, .output, .logFile, .help, .version]

def name : Switch → String
  | .host => "host"
  | .port => "port"
  | .database => "database"
  | .user => "user"
  | .connection => "connection"
  | .config => "config"
  | .file => "file"
  | .cursor => "cursor"
  | .select => "select"
  | .mockEngine => "mock-engine"
  | .maxHeight => "max-height"
  | .output => "output"
  | .logFile => "log-file"
  | .help => "help"
  | .version => "version"

def letter? : Switch → Option Char
  | .host => some 'H'
  | .port => some 'p'
  | .database => some 'd'
  | .user => some 'U'
  | .connection => some 'c'
  | .file => some 'f'
  | .help => some 'h'
  | .version => some 'V'
  | _ => none

def valueRule : Switch → ValueRule
  | .mockEngine | .help | .version => .never
  | .logFile => .maybe
  | _ => .always

def ofName? (s : List Char) : Option Switch := all.find? fun x => x.name.toList == s

def ofLetter? (c : Char) : Option Switch := all.find? fun x => x.letter? == some c

/-- A whole number below a bound; a sign is allowed as far as it changes nothing. -/
def number (bound : Nat) (s : List Char) : Except UsageError Nat :=
  let read := match s with
    | '-' :: digits => if digits.head? = some '+' then none else Text.Numeral.parse? 1 digits
    | s => Text.Numeral.parse? bound s
  match read with
  | some n => .ok n
  | none => .error .badValue

def path (s : List Char) : Except UsageError Files.Path :=
  if s.isEmpty then .error .missingValue else .ok s

def assign (v : List Char) (c : CommandLine) : Switch → Except UsageError CommandLine
  | .host => return { c with host := some v }
  | .port => return { c with port := ← number 65536 v }
  | .database => return { c with database := some v }
  | .user => return { c with user := some v }
  | .connection => return { c with connection := some v }
  | .config => return { c with config := some (← path v) }
  | .file => return { c with file := v }
  | .cursor => return { c with cursor := some v }
  | .select => return { c with select := some v }
  | .maxHeight => return { c with maxHeight := some (← number (Nat.pow 2 32) v) }
  | .output => return { c with output := v }
  | .logFile => return { c with log := .file (← path v) }
  | .mockEngine | .help | .version => throw .tooManyValues

def assignAlone (c : CommandLine) : Switch → Except UsageError CommandLine
  | .mockEngine => return { c with mockEngine := true }
  | .logFile => return { c with log := .defaultFile }
  | .help => throw .helpAsked
  | .version => throw .versionAsked
  | _ => throw .missingValue

end Switch

structure Scan where
  line : CommandLine := {}
  seen : List Switch := []
  /-- a switch whose value is still to come, or to be looked at -/
  pending : Option (Switch × Option (List Char)) := none
  /-- are all arguments free from here on? -/
  literal : Bool := false

namespace Scan

def take (switch : Switch) (value : Option (List Char)) (s : Scan) : Except UsageError Scan := do
  if value.isNone ∧ switch.valueRule = .always then throw .missingValue
  if switch ∈ s.seen then throw .conflict
  let line ← match value with
    | some v => switch.assign v s.line
    | none => switch.assignAlone s.line
  return { s with line, seen := switch :: s.seen }

def resolve (s : Scan) : Except UsageError Scan :=
  match s.pending with
  | none => .ok s
  | some (switch, value) => { s with pending := none }.take switch value

/-- a switch with the value that is attached to it, if any -/
def switched (switch : Switch) (attached : Option (List Char)) (s : Scan) :
    Except UsageError Scan := do
  match attached, switch.valueRule with
  | some _, .never => throw .tooManyValues
  | none, .never => (← s.resolve).take switch none
  | some v, _ => (← s.resolve).take switch (some v)
  | none, _ => return { ← s.resolve with pending := some (switch, none) }

/-- a cluster of letters; what follows a letter that takes a value is its value -/
def letters (s : Scan) : List Char → Except UsageError Scan
  | [] => .ok s
  | c :: rest =>
    match Switch.ofLetter? c with
    | none => .error .unknownArgument
    | some switch =>
      if switch.valueRule = .never then do letters (← s.switched switch none) rest
      else if rest.isEmpty then s.switched switch none
      else s.switched switch (some (if rest.head? = some '=' then rest.drop 1 else rest))

def long (text : List Char) (s : Scan) : Except UsageError Scan :=
  let name := text.takeWhile (· != '=')
  let attached := if name.length < text.length then some (text.drop (name.length + 1)) else none
  match Switch.ofName? name with
  | none => .error .unknownArgument
  | some switch => s.switched switch attached

/-- The one free argument is the address of the database. -/
def free (text : List Char) (s : Scan) : Except UsageError Scan := do
  if s.line.connectionString.isSome then throw .unknownArgument
  let s ← s.resolve
  return { s with line := { s.line with connectionString := some text } }

def step (s : Scan) (text : List Char) : Except UsageError Scan :=
  if s.literal then s.free text
  else match text with
    | ['-', '-'] => .ok { s with literal := true }
    | '-' :: '-' :: rest => s.long rest
    | '-' :: c :: rest => s.letters (c :: rest)
    | text =>
      match s.pending with
      | some (switch, none) => .ok { s with pending := some (switch, some text) }
      | _ => s.free text

def finish (s : Scan) : Except UsageError CommandLine := do
  let s ← s.resolve
  if .cursor ∈ s.seen ∧ .select ∈ s.seen then throw .conflict
  if .file ∉ s.seen then throw .missingRequired
  return s.line

end Scan

def parse (arguments : List (List Char)) : Except UsageError CommandLine := do
  (← arguments.foldlM Scan.step {}).finish

end CaretSql.CommandLine
