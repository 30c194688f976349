import CallLog.Task
import CallLog.World.Attribute

/-!
# Attributes and paths

How a computation follows a path from a module. On the way functions are bound and properties are
computed, for which calls have to be made: a `Responder` makes them.
-/

namespace CallLog

namespace Evaluation

/-- What a computation asks for. -/
inductive Request where
  | call (callee : Value) (arguments : Arguments)
  | await (v : Value)

/-- What makes calls. -/
abbrev Responder := Request → Task World Value

/-- What an attribute gives, as a value. -/
def ofAccess (respond : Responder) : Access → Task World Value
  | .value v => pure v
  | .bound func receiver => do return ← Run.make (.method func receiver)
  | .computed getter receiver => respond (.call getter ⟨[receiver], []⟩)

/-- An attribute of a value. -/
def member (respond : Responder) (v : Value) (name : String) : Task World Value := do
  let world ← Run.world
  match world.access? v name with
  | some found => ofAccess respond found
  | none => Task.fault (.noMember (world.naming.kindOf v) name)

/-- What the names lead to from a value. -/
def walk (respond : Responder) (v : Value) (names : List String) : Task World Value :=
  names.foldlM (member respond) v

/-- What a path from a module leads to. -/
def follow (respond : Responder) (home : Nat) (path : Path) : Task World Value := do
  let world ← Run.world
  match world.start? home path, path.steps with
  | some ref, name :: rest =>
    match world.moduleGet? ref name with
    | some v => walk respond v rest
    | none => Task.fault (.noMember "module" name)
  | _, _ => Task.fault (.noMember "module" (path.inside.getD ""))

end Evaluation

end CallLog
