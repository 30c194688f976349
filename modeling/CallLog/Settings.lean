import CallLog.Schema
import CallLog.Value.Level

/-!
# Settings

How the library logs: the level below which log points stay silent, whether records are written as
JSON, and whether the library sets up logging at all. A setting that is not given as an argument is
looked up in the environment, under its name after `logpoint_` in any mixture of capital and small
letters.
-/

namespace CallLog

/-- How the library logs. -/
structure Settings where
  logLevel : Level := .info
  jsonLogs : Bool := true
  configureLogging : Bool := true
  deriving Repr, DecidableEq

namespace Settings

open Check Checked

/-- The concrete level that a value names. -/
def concreteLevel (naming : Naming) (v : Value) : Except Fault Level := do
  match ← Level.ofValue naming v with
  | .derived => throw .levelNotConcrete
  | level => return level

/-- A check for a concrete level: a refusal of the value becomes an issue. -/
def level (naming : Naming) : Check Level := fun v =>
  match concreteLevel naming v with
  | .ok l => valid l
  | .error f => problem (.rejected f.message)

/-- A name in small letters. -/
def lowered (name : String) : String :=
  String.ofList (name.toList.flatMap Text.lower)

/-- The value of a setting in the environment; the last of several spellings counts. -/
def fromEnvironment (environment : List (String × String)) (setting : String) : Option Value :=
  match environment.reverse.find? fun (name, _) => lowered name = "logpoint_" ++ setting with
  | some (_, text) => some (.str text)
  | none => none

/-- The value of a setting: an argument, else an entry of the environment. -/
def source (arguments : List (String × Value)) (environment : List (String × String))
    (setting : String) : Option Value :=
  match arguments.reverse.lookup setting with
  | some v => some v
  | none => fromEnvironment environment setting

/-- A setting, or its default where it is not given. -/
def setting {α : Type} (arguments : List (String × Value)) (environment : List (String × String))
    (name : String) (value : α) (check : Check α) : Checked α :=
  match source arguments environment name with
  | some v => within (.field name) (check v)
  | none => valid value

/-- The settings from arguments and environment. -/
def load (arguments : List (String × Value)) (environment : List (String × String)) :
    Except Fault Settings :=
  let read {α : Type} (name : String) (value : α) (check : Check α) : Checked α :=
    setting arguments environment name value check
  Checked.get <|
    Settings.mk <$> read "log_level" .info (level Naming.empty)
      <*> read "json_logs" true boolean
      <*> read "configure_logging" true boolean

end Settings

end CallLog
