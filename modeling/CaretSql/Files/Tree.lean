import CaretSql.Files.Path

/-! A tree of files and directories, and what the usual calls on it answer. Places are kept as
the names that lead to them from the root. -/

namespace CaretSql.Files

inductive Entry
  | file (content : List UInt8)
  | directory
deriving DecidableEq, Repr

structure Tree where
  /-- all places but the root, the latest first -/
  entries : List (List Path × Entry) := []
  /-- where relative paths begin -/
  here : List Path := []
deriving DecidableEq, Repr

namespace Tree

def find? (place : List Path) (t : Tree) : Option Entry :=
  if place.isEmpty then some .directory else t.entries.lookup place

def put (place : List Path) (e : Entry) (t : Tree) : Tree :=
  { t with entries := (place, e) :: t.entries }

def nameLimit : Nat := 255

def pathLimit : Nat := 4096

/-- the place of a name in a directory -/
def enter (t : Tree) (place : List Path) (name : Path) : Except Error (List Path) :=
  match t.find? place with
  | none => .error .notFound
  | some (.file _) => .error .notDirectory
  | some .directory =>
    if nameLimit < (Text.utf8 name).length then .error .nameTooLong
    else if name = ['.'] then .ok place
    else if name = ['.', '.'] then .ok place.dropLast
    else .ok (place ++ [name])

def step (t : Tree) (place : List Path) (name : Path) : Except Error (List Path) := do
  let next ← t.enter place name
  if (t.find? next).isSome then return next else throw .notFound

def start (t : Tree) (p : Path) : Except Error (List Path) :=
  if p.contains '\x00' then .error .nulInName
  else if p.isEmpty then .error .notFound
  else if pathLimit ≤ (Text.utf8 p).length then .error .nameTooLong
  else .ok (if p.isAbsolute then [] else t.here)

/-- the place that a path leads to; behind a slash it has to be a directory -/
def resolve (p : Path) (t : Tree) : Except Error (List Path) := do
  let place ← p.names.foldlM t.step (← t.start p)
  if p.endsInSlash ∧ t.find? place ≠ some .directory then throw .notDirectory
  return place

def isDirectory (p : Path) (t : Tree) : Bool :=
  match t.resolve p with
  | .ok place => t.find? place == some .directory
  | .error _ => false

def read (p : Path) (t : Tree) : Except Error (List UInt8) := do
  match t.find? (← t.resolve p) with
  | some (.file content) => return content
  | some .directory => throw .isDirectory
  | none => throw .notFound

/-- where a new entry of this path would be, if the path ends in a name -/
def site (p : Path) (t : Tree) : Except Error (Option (List Path)) := do
  let place ← p.names.dropLast.foldlM t.step (← t.start p)
  match p.names.getLast? with
  | none => return none
  | some name =>
    let next ← t.enter place name
    return if name = ['.'] ∨ name = ['.', '.'] then none else some next

def makeDirectory (p : Path) (t : Tree) : Except Error Tree := do
  match ← t.site p with
  | none => throw .alreadyThere
  | some place => if (t.find? place).isSome then throw .alreadyThere else return t.put place .directory

/-- Makes a directory and those above it that are missing; `fuel` bounds their number. -/
def makeDirectories : Nat → Path → Tree → Except Error Tree
  | 0, _, t => .ok t
  | fuel + 1, p, t =>
    if p.isEmpty then .ok t
    else
      let make (t : Tree) : Except Error Tree :=
        match t.makeDirectory p with
        | .ok t => .ok t
        | .error e => if t.isDirectory p then .ok t else .error e
      match make t, p.parent? with
      | .error .notFound, some parent => makeDirectories fuel parent t >>= make
      | answer, _ => answer

/-- Makes an empty file, or empties the one that is there. -/
def create (p : Path) (t : Tree) : Except Error Tree := do
  match ← t.site p with
  | none =>
    let _ ← t.resolve p
    throw .isDirectory
  | some place =>
    if p.endsInSlash ∨ t.find? place = some .directory then throw .isDirectory
    return t.put place (.file [])

end Tree

end CaretSql.Files
