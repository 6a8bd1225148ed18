import CaretSql.Toml.Node
import CaretSql.Toml.Number
import CaretSql.Toml.Text

/-! Whole documents: headers and entries, one a line. The entries after a header go into its
table, which takes its place in the document when the next header comes or the text ends. -/

namespace CaretSql.Toml

/-- how many arrays and inline tables may stand inside each other, and parts in a dotted key -/
def depthLimit : Nat := 79

def isBareKeyChar (c : Char) : Bool := c.isAlphanum || c == '_' || c == '-'

def simpleKey? (s : List Char) : Option (String × List Char) :=
  let bare := s.takeWhile isBareKeyChar
  if bare.isEmpty then quotedText? false s else some (String.ofList bare, s.drop bare.length)

/-- The parts of a dotted key, with spaces around each; `fuel` bounds their number. -/
def keyParts? : Nat → List Char → Option (List String × List Char)
  | 0, _ => none
  | fuel + 1, s => do
    let (part, s) ← simpleKey? (skipSpaces s)
    match skipSpaces s with
    | '.' :: rest =>
      let (parts, rest) ← keyParts? fuel rest
      return (part :: parts, rest)
    | s => return ([part], s)

/-- A dotted key as the keys of the tables on its way and its own. -/
def key? (s : List Char) : Option ((List String × String) × List Char) := do
  let (parts, rest) ← keyParts? depthLimit s
  return ((parts.dropLast, ← parts.getLast?), rest)

/-- An inline table is filled like any other, and then closed. -/
def inlineTable? (entries : List ((List String × String) × Value)) : Option Value :=
  (entries.foldlM (fun (table : Node) e => table.addEntry e.1.1 e.1.2 e.2) Node.emptyTable).map Node.toValue

mutual

/-- a value at the head of the text, with room for so many brackets around another -/
def value? : Nat → Nat → List Char → Option (Value × List Char)
  | 0, _, _ => none
  | fuel + 1, depth, s =>
    match s with
    | [] => none
    | c :: rest =>
      if c = '"' ∨ c = '\'' then (quotedText? true s).map fun (text, rest) => (.string text, rest)
      else if c = '[' then
        if depth = 0 then none
        else (items? fuel (depth - 1) rest).map fun (items, rest) => (.array items, rest)
      else if c = '\x7b' then
        if depth = 0 then none
        else do
          let (entries, rest) ← entries? fuel (depth - 1) rest
          return (← inlineTable? entries, rest)
      else if c.isDigit ∨ c = '+' ∨ c = '-' then number? s
      else if "true".toList.isPrefixOf s then some (.boolean true, s.drop 4)
      else if "false".toList.isPrefixOf s then some (.boolean false, s.drop 5)
      else if "inf".toList.isPrefixOf s ∨ "nan".toList.isPrefixOf s then some (.float, s.drop 3)
      else none

/-- The elements of an array from here on. Blanks and comments may stand around them, and a comma
after the last. -/
def items? : Nat → Nat → List Char → Option (List Value × List Char)
  | 0, _, _ => none
  | fuel + 1, depth, s =>
    match skipBlank s.length s with
    | ']' :: rest => some ([], rest)
    | s => do
      let (item, rest) ← value? fuel depth s
      match skipBlank rest.length rest with
      | ',' :: rest =>
        let (items, rest) ← items? fuel depth rest
        return (item :: items, rest)
      | ']' :: rest => return ([item], rest)
      | _ => none

/-- the entries of an inline table from its opening on -/
def entries? : Nat → Nat → List Char → Option (List ((List String × String) × Value) × List Char)
  | 0, _, _ => none
  | fuel + 1, depth, s =>
    match skipSpaces s with
    | '\x7d' :: rest => some ([], rest)
    | s => moreEntries? fuel depth s

/-- the entries of an inline table, of which one has to follow -/
def moreEntries? : Nat → Nat → List Char → Option (List ((List String × String) × Value) × List Char)
  | 0, _, _ => none
  | fuel + 1, depth, s => do
    let (key, s) ← key? s
    let (v, s) ← value? fuel depth (skipSpaces (← expect? '=' s))
    match skipSpaces s with
    | ',' :: rest =>
      let (entries, rest) ← moreEntries? fuel depth rest
      return ((key, v) :: entries, rest)
    | '\x7d' :: rest => return ([(key, v)], rest)
    | _ => none

end

inductive Section
  | root
  | table (path : List String) (key : String)
  | arrayItem (path : List String) (key : String)

/-- A document under construction; the section that is being filled is kept apart. -/
structure Draft where
  root : Node := Node.emptyTable
  place : Section := .root
  current : Node := Node.emptyTable

namespace Draft

def finish (d : Draft) : Option Node :=
  match d.place with
  | .root => some d.current
  | .table path key => (d.root.atPath false (Node.close key d.current) path).map Prod.snd
  | .arrayItem path key => (d.root.atPath false (Node.push key d.current) path).map Prod.snd

def startTable (path : List String) (key : String) (d : Draft) : Option Draft := do
  let (current, root) ← (← d.finish).atPath false (Node.opened key) path
  return ⟨root, .table path key, current⟩

def startItem (path : List String) (key : String) (d : Draft) : Option Draft := do
  let (_, root) ← (← d.finish).atPath false (Node.admitsItem key) path
  return ⟨root, .arrayItem path key, Node.emptyTable⟩

def addEntry (path : List String) (key : String) (v : Value) (d : Draft) : Option Draft :=
  (d.current.addEntry path key v).map fun current => { d with current }

end Draft

def line? (d : Draft) (s : List Char) : Option (Draft × List Char) :=
  match s with
  | '[' :: '[' :: rest => do
    let ((path, key), rest) ← key? rest
    let rest ← expect? ']' (← expect? ']' rest)
    return (← d.startItem path key, ← trailing? rest)
  | '[' :: rest => do
    let ((path, key), rest) ← key? rest
    let rest ← expect? ']' rest
    return (← d.startTable path key, ← trailing? rest)
  | s => do
    let ((path, key), rest) ← key? s
    let (v, rest) ← value? (2 * s.length + 2) depthLimit (skipSpaces (← expect? '=' rest))
    return (← d.addEntry path key v, ← trailing? rest)

def lines? : Nat → Draft → List Char → Option Draft
  | 0, _, _ => none
  | fuel + 1, d, s =>
    match skipSpaces s with
    | [] => some d
    | '#' :: rest => (lineEnd? (skipComment ('#' :: rest))).bind (lines? fuel d)
    | s =>
      match newline? s with
      | some rest => lines? fuel d rest
      | none => (line? d s).bind fun (d, rest) => lines? fuel d rest

/-- The mark of byte order that a text may begin with is passed over. -/
def parse? (s : List Char) : Option Value := do
  let s := if s.head? = some '\uFEFF' then s.drop 1 else s
  let d ← lines? (s.length + 1) {} s
  return (← d.finish).toValue

end CaretSql.Toml
