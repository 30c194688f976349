import CallLog.Level
import CallLog.Value.Text

/-!
# Levels given as values

A level may be given as any value: its text is read as the name of a level. A value whose text names
no level is refused, and the refusal displays the value.
-/

namespace CallLog

/-- The level that a value names. -/
def Level.ofValue (naming : Naming) (v : Value) : Except Fault Level := do
  match Level.read? (← v.text naming) with
  | some level => return level
  | none => throw (.unknownLevel (String.ofList (← v.display naming)))

end CallLog
