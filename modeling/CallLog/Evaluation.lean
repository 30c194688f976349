import CallLog.Evaluation.Call

/-!
# Evaluation

What happens when a value is called or awaited: `respond` ties the knot between bodies and calls,
with a bound on how deep calls are nested. A call that goes deeper fails.

The body of an asynchronous function runs, and its call is logged, when the coroutine is awaited.
-/

namespace CallLog

namespace Evaluation

/-- Does what a coroutine does. -/
def runJob (respond : Responder) : Job → Task World Value
  | .over => Task.fault .spentCoroutine
  | .body ref values => do
    match (← Run.world).object? ref with
    | some (.function f) => runBody respond f values
    | _ => return .none
  | .logged ref arguments => do
    match (← Run.world).object? ref with
    | some (.logged l) =>
      l.intercept ref arguments do
        respond (.await (← respond (.call l.target arguments)))
    | _ => return .none

/-- Awaits a value. An exception that stands for the end of an iteration does not leave a
coroutine. -/
def awaitValue (respond : Responder) (v : Value) : Task World Value := do
  match v, (← Run.world).behind? v with
  | .object ref _, some (.coroutine name job) =>
    Run.change (World.put ref (.coroutine name .over))
    match ← Task.attempt (runJob respond job) with
    | .ok result => return result
    | .error r =>
      if r.kind.derivesFrom .stopIteration then Task.fault .stoppedCoroutine else Task.raise r
  | _, _ => Task.fault (.unsupported "the value cannot be awaited")

/-- Calls and awaits values; the number bounds how deep calls are nested. -/
def respondWithin : Nat → Responder
  | 0, _ => Task.fault .callDepth
  | depth + 1, .call v arguments => callValue (respondWithin depth) v arguments
  | depth + 1, .await v => awaitValue (respondWithin depth) v

/-- How deep calls may be nested. -/
def callLimit : Nat := 1000

/-- Calls and awaits values. -/
def respond : Responder :=
  respondWithin callLimit

/-- Calls a value, and awaits the result if it can be awaited. -/
def callAndAwait (v : Value) (arguments : Arguments) : Task World Value := do
  let result ← respond (.call v arguments)
  if isAwaitable (← Run.world) result then respond (.await result) else return result

end Evaluation

end CallLog
