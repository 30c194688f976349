import CallLog.Description
import CallLog.Metadata.Plan
import CallLog.Task
import CallLog.World.Settled

/-!
# Intercepting calls

A call of a logged function is logged, then made, then its result or its failure is logged. The log
point comes from the plan that the shared cache holds for the function: where the cache has another
plan than the one in use, a log point is made for it, with a logger that takes the threshold of that
moment.

A call whose arguments do not bind to the signature is not logged itself; making it fails, and the
failure is logged. An interrupt is not logged.
-/

namespace CallLog

namespace LoggedFunction

/-- The values of a call that its record shows: those of all parameters but the receiver, if the
arguments bind to the signature. -/
def shownArguments (world : World) (l : LoggedFunction) (arguments : Arguments) :
    Option (List Value) :=
  (l.signature.bind arguments).map fun values =>
    if l.owner.isSome && !world.isStatic l.func then values.drop 1 else values

/-- Builds the plan of a logged function. -/
def buildPlan (l : LoggedFunction) : Run Plan := do
  let world ← Run.world
  let metadata ← Run.logging (world.describe l.func l.interceptor.config l.owner)
  Action.ofExcept metadata.plan

/-- Makes a log point for a plan and puts it to use. -/
def rebind (ref : Nat) (l : LoggedFunction) (plan : StampedPlan) : Run BoundPoint := do
  let logger ← Run.logging (Logger.make plan.plan.logger)
  let bound : BoundPoint :=
    ⟨plan.stamp, ⟨plan.plan, l.interceptor.converters, l.interceptor.providers⟩, logger⟩
  Run.change (World.put ref (.logged { l with current := some bound }))
  return bound

/-- The log point of the logged function behind a reference. -/
def bound (ref : Nat) (l : LoggedFunction) : Run BoundPoint := do
  let plan ← PlanCache.fetch World.cachePart World.journalPart ref l.buildPlan
  match l.current with
  | some bound => if bound.stamp = plan.stamp then return bound else rebind ref l plan
  | none => rebind ref l plan

end LoggedFunction

namespace BoundPoint

/-- Logs a call. -/
def logCall (bound : BoundPoint) (arguments : List Value) : Run Unit := do
  let world ← Run.world
  Run.logging
    (bound.point.logCall world.naming (.logger bound.logger) (world.settledAll arguments))

/-- Logs the result of a call. -/
def logResult (bound : BoundPoint) (result : Value) : Run Unit := do
  let world ← Run.world
  Run.logging (bound.point.logResult world.naming (.logger bound.logger) (world.settled result))

/-- Logs what a call raised. -/
def logFailure (bound : BoundPoint) (r : Raised) : Run Unit := do
  let world ← Run.world
  Run.logging
    (bound.point.logFailure world.naming (.logger bound.logger) (world.settled r.toValue))

/-- A call with its log records around it. -/
def around (bound : BoundPoint) (arguments : Option (List Value)) (call : Task World Value) :
    Task World Value := do
  match arguments with
  | some values => bound.logCall values
  | none => pure ()
  match ← call.attempt with
  | .ok result =>
    bound.logResult result
    return result
  | .error r =>
    if r.isCaught then bound.logFailure r
    Task.raise r

end BoundPoint

/-- A call of a logged function, made by `call`. -/
def LoggedFunction.intercept (ref : Nat) (l : LoggedFunction) (arguments : Arguments)
    (call : Task World Value) : Task World Value := do
  let bound ← l.bound ref
  let world ← Run.world
  bound.around (l.shownArguments world arguments) call

end CallLog
