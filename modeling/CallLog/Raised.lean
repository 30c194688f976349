import CallLog.Value.Text

/-!
# Raised exceptions

What a computation ends with when it does not end with a result: an exception that a program made,
or a fault. Handlers catch only what derives from `Exception`; an interrupt passes them by.
-/

namespace CallLog

/-- What ends a computation without a result. -/
inductive Raised where
  /-- an exception that a program made -/
  | made (c : Class) (args : List Value)
  | fault (f : Fault)
  deriving Inhabited

namespace Raised

/-- What is raised when a class is raised with some arguments. -/
def ofClass (c : Class) (args : List Value) : Raised :=
  made (c.ofArguments args) args

/-- The value that is raised. -/
def toValue : Raised → Value
  | made c args => .error c args
  | fault f => .fault f

/-- What is raised when a value is raised, if it can be. -/
def ofValue? : Value → Option Raised
  | .error c args => some (made c args)
  | .fault f => some (fault f)
  | _ => none

/-- The class of what is raised. -/
def kind : Raised → Class
  | made c _ => c
  | fault f => .known f.kind

/-- Whether a handler catches what is raised. -/
def isCaught (r : Raised) : Bool :=
  r.kind.derivesFrom .exception

/-- The text of what is raised. -/
def text (naming : Naming) (r : Raised) : Except Fault (List Char) :=
  r.toValue.text naming

/-- Every fault is caught. -/
theorem isCaught_fault (f : Fault) : (fault f).isCaught = true := by
  cases f <;> rfl

end Raised

end CallLog
