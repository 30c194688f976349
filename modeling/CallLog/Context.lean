import CallLog.Logger

/-!
# Context

The context of a log point is a set of named values. Part of it is collected from context variables
each time: every provider is asked once, in order; one that has no value leaves its key out, and one
that fails is left out and reported as a warning. The other part is bound around a computation by a
log context, and taken back when the computation ends, however it ends.
-/

namespace CallLog

namespace Provider

/-- Counts up in a cell of the journal. -/
def countUp (cell : Nat) : Logging Nat := do
  let n := ((← Logging.journal).counters[cell]?).getD 0 + 1
  Logging.change fun j => { j with counters := j.counters.set cell n }
  return n

/-- Asks a provider for its value. -/
def ask (provider : Provider) : Logging Value :=
  match provider.source with
  | .const v => pure v
  | .count cell => do return .int (← countUp cell)
  | .answers cell answer => do Action.resume (answer (← countUp cell))
  | .raises c args => Action.raise (.ofClass c args)

end Provider

namespace Context

/-- Named values, each name at most once, in the order in which the names came. -/
abbrev Fields := List (String × Value)

/-- The part of the library that reports on context variables. -/
def reporter : String :=
  "runtime.context"

/-- Reports that a provider failed. -/
def reportFailure (naming : Naming) (key : String) (r : Raised) : Logging Unit := do
  let message ← Action.ofExcept (r.text naming)
  Logger.reportHandled naming reporter "warning" "context_variable_failed"
    [("key", .str key), ("error", .str (String.ofList message))] r

/-- The fields after one provider was asked. -/
def collectOne (naming : Naming) (fields : Fields) (provider : Provider) : Logging Fields := do
  match ← Action.attempt provider.ask with
  | .ok v => return if v.isNone then fields else Document.insert provider.key v fields
  | .error r =>
    if r.isCaught then
      reportFailure naming provider.key r
      return fields
    else Action.raise r

/-- The values of some context variables. -/
def collect (naming : Naming) (providers : List Provider) : Logging Fields :=
  providers.foldlM (collectOne naming) []

/-- Registers a context variable for all log points. -/
def add (provider : Provider) : Logging Unit :=
  Logging.change fun j => { j with providers := j.providers ++ [provider] }

/-- Removes all registered context variables. -/
def clear : Logging Unit :=
  Logging.change fun j => { j with providers := [] }

/-- The fields with others put over them. -/
def overlay (fields others : Fields) : Fields :=
  others.foldl (fun fs (name, v) => Document.insert name v fs) fields

/-- Binds values. -/
def bind (values : Fields) : Logging Unit :=
  Logging.change fun j => { j with bound := overlay j.bound values }

/-- A computation inside a log context that binds some values. -/
def within {α : Type} (values : Fields) (x : Logging α) : Logging α :=
  Logging.restoringBound do
    bind values
    x

end Context

end CallLog
