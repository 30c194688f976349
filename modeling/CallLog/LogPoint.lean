import CallLog.Context
import CallLog.Conversion
import CallLog.Plan

/-!
# Log points

A log point executes a plan for one call. It hands the event and the values for its slots to a sink:
a structured logger, or a recorder that notes what it is asked. Nothing happens where the level of
the plan is not enabled.

The values of the call record are those of the rules in order, with the exception inserted at the
positions of the error parameter; the exception itself goes along as `exc_info`. All values are
converted first, and the context is collected before anything is emitted.
-/

namespace CallLog

/-- Where log points emit to. -/
inductive Sink where
  | logger (l : Logger)
  /-- notes what it is asked; it has the given methods, and a level check if it has a threshold -/
  | recorder (methods : List String) (threshold : Option Int)

namespace Sink

/-- Whether a sink takes events of a level number; a recorder notes that it was asked. -/
def isEnabledFor (level : Nat) : Sink → Logging Bool
  | logger l => return l.isEnabledFor level
  | recorder _ none => return true
  | recorder _ (some threshold) => do
    Logging.note (.check level)
    return threshold ≤ level

/-- Emits an event through a method of the sink. -/
def emit (naming : Naming) (method event : String) (args : List Value) (fields : Context.Fields) :
    Sink → Logging Unit
  | logger l => l.emit naming method event args fields
  | recorder methods _ => do
    if methods.contains method then
      Logger.refuse ["method", "event"] fields
      Logging.note (.emit method event args fields)
    else Action.fault (.noMember "'Recorder' object" method)

end Sink

/-- A plan with what is needed to execute it. -/
structure LogPoint where
  plan : Plan
  /-- the converters for arguments and results, if they are not the standard ones -/
  converters : Option Converters := none
  /-- the context variables, if they are not the registered ones -/
  providers : Option (List Provider) := none

namespace LogPoint

/-- The item at an index; a negative one counts from the end. -/
def item? {α : Type} (xs : List α) (i : Int) : Option α :=
  if 0 ≤ i then xs[i.toNat]?
  else if i.natAbs ≤ xs.length then xs[xs.length - i.natAbs]?
  else none

/-- Where an index cuts a list for an insertion: a negative one counts from the end, and one beyond
an end means that end. -/
def cut (length : Nat) (i : Int) : Nat :=
  if 0 ≤ i then min i.toNat length else length - i.natAbs

/-- A list with an item inserted before an index. -/
def insertAt {α : Type} (xs : List α) (i : Int) (x : α) : List α :=
  let n := cut xs.length i
  xs.take n ++ x :: xs.drop n

/-- The argument at an index. -/
def argument (arguments : List Value) (i : Int) : Logging Value :=
  match item? arguments i with
  | some v => pure v
  | none => Action.fault .indexOutOfRange

/-- The converters of a log point. -/
def registry (point : LogPoint) : Logging Converters :=
  match point.converters with
  | some registry => pure registry
  | none => return (← Logging.journal).converters

/-- A value as the log point shows it. -/
def convert (naming : Naming) (point : LogPoint) (v : Value) : Logging Value := do
  (← point.registry).convert naming v

/-- Whether the sink takes events of the plan's level. -/
def isEnabled (point : LogPoint) (sink : Sink) : Logging Bool :=
  sink.isEnabledFor point.plan.level.number

/-- The value that a rule puts into its slot. -/
def render (naming : Naming) (point : LogPoint) (arguments : List Value) : Rule → Logging Value
  | .live i _ _ => do point.convert naming (← argument arguments i)
  | .static text => pure (.str text)

/-- The context of a record. -/
def context (naming : Naming) (point : LogPoint) : Logging Context.Fields :=
  match point.providers with
  | some providers => Context.collect naming providers
  | none => do Context.collect naming (← Logging.journal).providers

/-- Emits an event through the method of the plan's level. -/
def emit (naming : Naming) (point : LogPoint) (sink : Sink) (event : String) (args : List Value)
    (fields : Context.Fields) : Logging Unit := do
  Logger.refuse ["self", "logger", "event"] fields
  sink.emit naming point.plan.level.method event args fields

/-- The values with an exception inserted at some positions, converted anew for each. -/
def insertError (naming : Naming) (point : LogPoint) (error : Value) :
    List Int → List Value → Logging (List Value)
  | [], values => pure values
  | i :: rest, values => do
    let shown ← point.convert naming error
    insertError naming point error rest (insertAt values i shown)

/-- The values and fields of a call record, completed by the error parameter if there is one. -/
def withError (naming : Naming) (point : LogPoint) (arguments : List Value)
    (values : List Value) (fields : Context.Fields) : Logging (List Value × Context.Fields) :=
  match point.plan.errorParameter with
  | none => pure (values, fields)
  | some parameter => do
    let error ← argument arguments parameter.index
    let values ← insertError naming point error parameter.positions values
    return (values, if error.isNone then fields else Document.insert "exc_info" error fields)

/-- The event of a call record: without values it is the message as it stands. -/
def callEvent (point : LogPoint) (values : List Value) : String :=
  if values.isEmpty then point.plan.message
  else String.ofList (Format.ofMessage point.plan.message.toList)

/-- Logs a call with its arguments, those of the receiver left out. -/
def logCall (naming : Naming) (point : LogPoint) (sink : Sink) (arguments : List Value) :
    Logging Unit := do
  if ← point.isEnabled sink then
    let values ← point.plan.parameters.mapM (point.render naming arguments)
    let fields ← point.context naming
    let (values, fields) ← point.withError naming arguments values fields
    point.emit naming sink (point.callEvent values) values fields

/-- Logs a result, if the plan asks for it. -/
def logResult (naming : Naming) (point : LogPoint) (sink : Sink) (result : Value) :
    Logging Unit := do
  if point.plan.logResult then
    if ← point.isEnabled sink then
      let shown ← point.convert naming result
      let fields ← point.context naming
      point.emit naming sink "return %s" [shown] fields

/-- Logs an exception that a call ended with. -/
def logFailure (naming : Naming) (point : LogPoint) (sink : Sink) (error : Value) :
    Logging Unit := do
  if ← point.isEnabled sink then
    let fields ← point.context naming
    Logger.refuse ["exc_info"] fields
    point.emit naming sink "failed with %s" [.str (naming.kindOf error)]
      (Document.insert "exc_info" error fields)

end LogPoint

end CallLog
