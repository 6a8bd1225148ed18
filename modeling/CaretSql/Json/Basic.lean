import CaretSql.Binary64.Basic

/-! JSON values. Whole numbers and floating-point numbers are kept apart, since what asks for a
whole number takes no other. -/

namespace CaretSql

inductive Json
  | null
  | bool (b : Bool)
  | int (i : Int)
  | float (x : Binary64)
  | string (s : String)
  | array (items : List Json)
  | object (fields : List (String × Json))
deriving Repr, Inhabited

namespace Json

def ofOption {α : Type} (write : α → Json) : Option α → Json
  | none => .null
  | some a => write a

def nat (n : Nat) : Json := .int n

def text (s : List Char) : Json := .string (String.ofList s)

def list {α : Type} (write : α → Json) (items : List α) : Json := .array (items.map write)

def bool? : Json → Option Bool
  | .bool b => some b
  | _ => none

def int? : Json → Option Int
  | .int i => some i
  | _ => none

def natBelow? (bound : Nat) : Json → Option Nat
  | .int i => if 0 ≤ i ∧ i < bound then some i.toNat else none
  | _ => none

def string? : Json → Option String
  | .string s => some s
  | _ => none

def chars? (j : Json) : Option (List Char) := j.string?.map String.toList

def list? {α : Type} (read : Json → Option α) : Json → Option (List α)
  | .array items => items.mapM read
  | _ => none

/-- null stands for nothing -/
def option? {α : Type} (read : Json → Option α) : Json → Option (Option α)
  | .null => some none
  | j => (read j).map some

def field? (name : String) : Json → Option Json
  | .object fields => fields.lookup name
  | _ => none

end Json

end CaretSql
