/-! The failures that the program reports to its user: a category and what happened. -/

namespace CaretSql

inductive FaultKind
  | connection
  | query
  | configuration
  | session
  | internal
deriving DecidableEq, Repr

structure Fault where
  kind : FaultKind
  detail : String
deriving DecidableEq, Repr

namespace FaultKind

def category : FaultKind → String
  | .connection => "Connection Error"
  | .query => "Query Error"
  | .configuration => "Configuration Error"
  | .session => "Session Error"
  | .internal => "Internal Error"

def lead : FaultKind → String
  | .connection => "Connection error"
  | .query => "Query error"
  | .configuration => "Configuration error"
  | .session => "Session error"
  | .internal => "Internal error"

end FaultKind

namespace Fault

def category (f : Fault) : String := f.kind.category

def message (f : Fault) : String := f.kind.lead ++ ": " ++ f.detail

def report (f : Fault) : String := f.category ++ ": " ++ f.message

end Fault

end CaretSql
