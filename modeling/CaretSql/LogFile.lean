import CaretSql.Fault
import CaretSql.Files.Tree

/-! The file that a run may log to. It is emptied when the run begins, and its directory is made
if it is missing. -/

namespace CaretSql.LogFile

open Files

inductive OpenError
  | directory (path : Path) (cause : Error)
  | file (path : Path) (cause : Error)
deriving DecidableEq, Repr

namespace OpenError

def detail : OpenError → String
  | .directory path cause =>
    "Could not create log directory " ++ String.ofList path ++ ": " ++ cause.text
  | .file path cause => "Could not create log file " ++ String.ofList path ++ ": " ++ cause.text

def toFault (e : OpenError) : Fault := ⟨.configuration, e.detail⟩

end OpenError

def openIn (t : Tree) (path : Path) : Except OpenError Tree := do
  let t ← match path.parent? with
    | none => pure t
    | some parent => (t.makeDirectories (path.length + 1) parent).mapError (.directory parent)
  (t.create path).mapError (.file path)

def defaultPath (home : Path) : Path := home ++ "/.local/state/query-pane/query-pane.log".toList

end CaretSql.LogFile
