import CallLog.TypeHint
import CallLog.Level

/-!
# Metadata of a callable

What has to be known of a callable to plan its log points: its name, its parameters without the
receiver, the scopes around it with their configurations, its own configuration, and what it is
declared to return. Scopes are listed from the innermost to the module.
-/

namespace CallLog

/-- How calls are logged, as far as it is configured in one place. -/
structure Config where
  /-- the message template; an empty one asks for a generated message -/
  message : String := ""
  /-- the level, or `derived` to take it from the scope around -/
  level : Level := .derived
  /-- the name of the logger, if it is not to be derived -/
  logger : Option String := none
  deriving Repr, DecidableEq

/-- One declared parameter. -/
structure Parameter where
  index : Int
  name : String
  hint : TypeHint := .any
  /-- whether the parameter is kept out of the generated message -/
  dontLog : Bool := false
  deriving Repr

/-- What kind of scope encloses a callable. -/
inductive ScopeKind where
  | cls
  | module
  deriving Repr, DecidableEq

/-- A class or module around a callable. -/
structure Scope where
  name : String
  kind : ScopeKind
  config : Option Config := none
  deriving Repr, DecidableEq

/-- Everything that has to be known of a callable to plan its log points. -/
structure Metadata where
  name : String
  parameters : List Parameter := []
  /-- the enclosing scopes, the innermost first -/
  scopes : List Scope := []
  config : Config := {}
  /-- what the callable is declared to return -/
  returns : TypeHint := .any
  deriving Repr

end CallLog
