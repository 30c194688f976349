import CallLog.Construction
import CallLog.Evaluation.Body
import CallLog.Instrument
import CallLog.Interception

/-!
# Calls

What happens when a value is called. Methods, static methods and partial applications hand the call
on to the function behind them. Calling an asynchronous function makes a coroutine, and so does
calling a logged function around one.
-/

namespace CallLog

namespace Evaluation

/-- Calls a function. -/
def callFunction (respond : Responder) (ref : Nat) (f : Function) (arguments : Arguments) :
    Task World Value := do
  let values ← Task.ofAction (Action.ofExcept (f.signature.accept arguments))
  if f.isAsync then return ← Run.make (.coroutine f.qualname (.body ref values))
  else runBody respond f values

/-- Calls a logged function. -/
def callLogged (respond : Responder) (ref : Nat) (l : LoggedFunction) (arguments : Arguments) :
    Task World Value :=
  if arguments.named.any fun e => e.1 = "self" then Task.fault (.keywordClash "self")
  else if l.isAsync then do
    return ← Run.make (.coroutine "LoggedFunction._call_async" (.logged ref arguments))
  else l.intercept ref arguments (respond (.call l.target arguments))

/-- Calls what a class holds for its instances. -/
def callMember (respond : Responder) (world : World) (member receiver : Value) (c : Class)
    (arguments : Arguments) : Task World Value := do
  match world.access member (some receiver) c with
  | .value v => respond (.call v arguments)
  | .bound func receiver =>
    respond (.call func { arguments with positional := receiver :: arguments.positional })
  | .computed getter receiver =>
    respond (.call (← respond (.call getter ⟨[receiver], []⟩)) arguments)

/-- A new instance of a class that a program made, before it is initialized. -/
def newInstance (c : Class) (arguments : Arguments) (hasInitializer : Bool) : Run Value :=
  if c.isRaisable then
    if hasInitializer && c.derivesFrom .osError then return .error c []
    else if hasInitializer || arguments.named.isEmpty then
      return .error c arguments.positional
    else Run.refuseArguments
  else if hasInitializer then Run.make (.instance c [])
  else do Run.make (.instance c (← Run.inheritedMembers (c.ancestors) arguments))

/-- Calls a class. -/
def callClass (respond : Responder) (c : Class) (arguments : Arguments) : Task World Value := do
  match c with
  | .known k => return ← Run.construct k arguments
  | .made .. =>
    let initializer := (← Run.world).classGet? c "__init__"
    let made ← newInstance c arguments initializer.isSome
    match initializer with
    | none => return made
    | some initializer =>
      let result ← callMember respond (← Run.world) initializer made c arguments
      if result.isNone then return made
      else Task.fault (.unsupported "an initializer gives no result")

/-- The callable behind methods, static methods and partial applications, with the arguments that
it gets; the number bounds how deep they are nested. -/
def forward (world : World) : Nat → Value → Arguments → Value × Arguments
  | 0, v, arguments => (v, arguments)
  | fuel + 1, v, arguments =>
    match world.behind? v with
    | some (.method func receiver) =>
      forward world fuel func { arguments with positional := receiver :: arguments.positional }
    | some (.partly func given) =>
      forward world fuel func { arguments with positional := given ++ arguments.positional }
    | some (.staticMethod func _) => forward world fuel func arguments
    | _ => (v, arguments)

/-- The length of a value. -/
def lengthOf (v : Value) : Run Value := do
  let world ← Run.world
  match (world.settled v).length? with
  | some n => return .int n
  | none => Action.fault (.noLength (world.naming.kindOf v))

/-- Calls what is no method, static method or partial application. -/
def callDirectly (respond : Responder) (v : Value) (arguments : Arguments) :
    Task World Value := do
  match World.asClass? v with
  | some c => callClass respond c arguments
  | none =>
    let world ← Run.world
    match v, world.behind? v with
    | .object ref _, some (.function f) => callFunction respond ref f arguments
    | .object ref _, some (.logged l) => callLogged respond ref l arguments
    | _, some (.decoration interceptor) =>
      let signature : Signature := { params := [{ name := "target" }] }
      match ← Task.ofAction (Action.ofExcept (signature.accept arguments)) with
      | [target] => return ← Run.decorate interceptor target
      | _ => Task.fault (.unbound "a decoration takes one target")
    | _, some (.builtin _) =>
      match arguments with
      | ⟨[v], []⟩ => return ← lengthOf v
      | _ => Task.fault (.unbound "the function takes one argument")
    | v, _ =>
      match world.instanceClass? v with
      | none => Task.fault (.unsupported "the value cannot be called")
      | some c =>
        match world.classGet? c "__call__" with
        | none => Task.fault (.unsupported "the value cannot be called")
        | some member => callMember respond world member v c arguments

/-- Calls a value. -/
def callValue (respond : Responder) (v : Value) (arguments : Arguments) : Task World Value := do
  let world ← Run.world
  let (v, arguments) := forward world world.depth v arguments
  callDirectly respond v arguments

end Evaluation

end CallLog
