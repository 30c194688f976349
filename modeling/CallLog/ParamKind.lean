/-!
# Kinds of parameters

How a parameter of a callable takes its argument.
-/

namespace CallLog

/-- How a parameter takes its argument. -/
inductive ParamKind where
  | positional
  /-- by position or by name -/
  | either
  /-- all positional arguments that are left -/
  | rest
  | named
  /-- all named arguments that are left -/
  | others
  deriving Repr, DecidableEq

end CallLog
