import CaretSql.Editor

/-! What can be done to an editor, as data. -/

namespace CaretSql.Editor

inductive Act
  | moveCaret (position : Position)
  | select (range : TextRange)
  | insert (text : List Char)
  | append (text : List Char)
  | setText (text : List Char)
  | find (needle : List Char)
  | addMarker (range : TextRange)
  | clearMarkers
  | scrollToRow (row : Nat)
  | focus
  | registerAction (action : EditorAction)
  | loadPreferences
  | savePreferences

def perform (e : Editor) : Act → Editor
  | .moveCaret p => e.moveCaret p
  | .select r => e.select r
  | .insert s => e.insert s
  | .append s => e.append s
  | .setText s => e.setText s
  | .find needle => (e.find needle).2
  | .addMarker r => e.addMarker r
  | .clearMarkers => e.clearMarkers
  | .scrollToRow row => e.scrollToRow row
  | .focus => e.focus
  | .registerAction a => e.registerAction a
  | .loadPreferences => e.loadPreferences
  | .savePreferences => e.savePreferences

end CaretSql.Editor
