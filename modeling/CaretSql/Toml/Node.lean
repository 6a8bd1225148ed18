import CaretSql.Toml.Value

/-! A document under construction. A table remembers how it came about, for that decides what
may still be added to it: one made by a header or by a value is closed, one that only appeared
on the way to another is not. -/

namespace CaretSql.Toml

inductive Node
  | value (v : Value)
  /-- `passing`: it only appeared on the way to another; `dotted`: and that in the key of an entry -/
  | table (passing dotted : Bool) (entries : List (String × Node))
  /-- the tables of an array, the latest first -/
  | tables (items : List Node)

namespace Node

def emptyTable : Node := .table false false []

/-- Puts a node under a key, in place of the one there. -/
def put (key : String) (node : Node) : List (String × Node) → List (String × Node)
  | [] => [(key, node)]
  | (k, old) :: rest => if k = key then (k, node) :: rest else (k, old) :: put key node rest

/-- Acts on the table at the end of a path, making the tables on the way. An array of tables
means its latest; a dotted path may not go through a closed table, and none through a value. -/
def atPath {α : Type} (dotted : Bool) (act : Node → Option (α × Node)) :
    List String → Node → Option (α × Node)
  | [], node => act node
  | key :: more, .table passing dots entries =>
    let within (node : Node) : Option (α × Node) := atPath dotted act more node
    let back (answer : α × Node) : α × Node := (answer.1, .table passing dots (put key answer.2 entries))
    match entries.lookup key with
    | none => (within (.table true dotted [])).map back
    | some (.table passing' dots' entries') =>
      if dotted ∧ !passing' then none else (within (.table passing' dots' entries')).map back
    | some (.tables (latest :: older)) =>
      (within latest).map fun (a, latest) => back (a, .tables (latest :: older))
    | some _ => none
  | _, _ => none

/-- Puts a new entry into a table; the keys before the last go through tables that dotted keys
made. -/
def addEntry (path : List String) (key : String) (v : Value) (root : Node) : Option Node :=
  (atPath true (fun
    | .table passing dotted entries =>
      if dotted = path.isEmpty ∨ (entries.lookup key).isSome then none
      else some ((), .table passing dotted (entries ++ [(key, .value v)]))
    | _ => none) path root).map Prod.snd

/-- What the table of a header holds before its entries come; only a table that appeared on the
way of another header may be there. -/
def opened (key : String) : Node → Option (Node × Node)
  | .table passing dotted entries =>
    match entries.lookup key with
    | none => some (emptyTable, .table passing dotted entries)
    | some (.table true false inner) => some (.table false false inner, .table passing dotted entries)
    | some _ => none
  | _ => none

/-- Puts the filled table of a header in its place. -/
def close (key : String) (node : Node) : Node → Option (Unit × Node)
  | .table passing dotted entries => some ((), .table passing dotted (put key node entries))
  | _ => none

/-- Does the table have an array of tables under the key, or room for one? -/
def admitsItem (key : String) : Node → Option (Unit × Node)
  | .table passing dotted entries =>
    match entries.lookup key with
    | none | some (.tables _) => some ((), .table passing dotted entries)
    | some _ => none
  | _ => none

/-- Adds a table to an array of tables. -/
def push (key : String) (node : Node) : Node → Option (Unit × Node)
  | .table passing dotted entries =>
    match entries.lookup key with
    | none => some ((), .table passing dotted (put key (.tables [node]) entries))
    | some (.tables items) =>
      some ((), .table passing dotted (put key (.tables (node :: items)) entries))
    | some _ => none
  | _ => none

mutual

def toValue : Node → Value
  | .value v => v
  | .table _ _ entries => .table (toEntries entries)
  | .tables items => .array (toItems items).reverse

def toEntries : List (String × Node) → List (String × Value)
  | [] => []
  | (key, node) :: rest => (key, toValue node) :: toEntries rest

def toItems : List Node → List Value
  | [] => []
  | node :: rest => toValue node :: toItems rest

end

end Node

end CaretSql.Toml
