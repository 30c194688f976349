import CallLog.Logger

/-!
# Conversion

`Converters.convert` turns a value into what a message shows. `None` is shown as it is, and so is a
value without a converter. When a converter fails, the failure is reported as a warning and the
value is displayed instead; an interrupt is not held up.
-/

namespace CallLog

namespace Converters

/-- The part of the library that reports on converters. -/
def reporter : String :=
  "runtime.converters"

/-- The fields of the report that a converter failed. -/
def failureFields (naming : Naming) (v : Value) (message : List Char) :
    List (String × Value) :=
  [("value_type", .str (naming.qualifiedKindOf v)), ("error", .str (String.ofList message))]

/-- Reports that a converter failed, and gives the display of the value in place of its result. -/
def recover (naming : Naming) (v : Value) (r : Raised) : Logging Value := do
  let message ← Action.ofExcept (r.text naming)
  Logger.reportHandled naming reporter "warning" "converter_failed" (failureFields naming v message)
    r
  return .str (String.ofList (← Action.ofExcept (v.display naming)))

end Converters

namespace Registry

variable {κ : Type}

/-- What a message shows for a value that has a converter. -/
def applied (naming : Naming) (registry : Registry κ) (converter : Converter) (v : Value) :
    Logging Value :=
  match registry.meaning naming converter v with
  | .ok w => pure w
  | .error r => if r.isCaught then Converters.recover naming v r else Action.raise r

/-- What a message shows for a value, by the line of ancestors of its class. -/
def convert [DecidableEq κ] (naming : Naming) (registry : Registry κ) (line : List κ) (v : Value) :
    Logging Value :=
  if v.isNone then pure .none
  else
    match registry.find line with
    | none => pure v
    | some converter => registry.applied naming converter v

end Registry

/-- What a message shows for a value. -/
def Converters.convert (naming : Naming) (registry : Converters) (v : Value) : Logging Value :=
  Registry.convert naming registry v.line v

end CallLog
