import CallLog.Description
import CallLog.Schema.Metadata
import CallLog.Value.Level

/-!
# Instrumenting functions and classes

A function is instrumented by an object that takes its place and logs its calls. A class is
instrumented by storing the configuration in it and by replacing its public functions, static
methods and class methods that are not logged already. These take over the logger of the
configuration; its level reaches them through the class, which is a scope around them.

An object that takes the place of a logged function is a copy of it, except for what it wraps.
-/

namespace CallLog

namespace Run

/-- Puts an object that logs calls around a function. -/
def wrap (interceptor : Interceptor) (func : Value) : Run Nat := do
  let world ← Run.world
  let target := world.unwrap func
  let signature ← Action.ofExcept (world.signatureOf target)
  match world.behind? target with
  | some (.logged inner) => Run.allocate (.logged { inner with wrapped := target })
  | _ =>
    Run.allocate (.logged {
      func := func
      target := target
      interceptor := interceptor
      signature := signature
      isAsync := world.isCoroutine target
      labels := world.labelsOf target
      wrapped := target })

/-- Tells a logged function which class it belongs to. -/
def setOwner (owner : Class) (ref : Nat) : Run Unit := do
  match (← Run.world).object? ref with
  | some (.logged l) => Run.change (World.put ref (.logged { l with owner := some owner }))
  | _ => pure ()

end Run

namespace World

/-- Whether a member of a class is replaced when the class is instrumented. -/
def isInstrumentable (world : World) (name : String) (member : Value) : Bool :=
  name.toList.head? ≠ some '_' &&
    match world.behind? member with
    | some (.function _) | some (.decoration _) | some (.staticMethod ..)
    | some (.classMethod ..) => true
    | _ => false

/-- The world with a member of a class replaced. -/
def setMember (ref : Nat) (name : String) (v : Value) (world : World) : World :=
  match world.class? ref with
  | some c => world.put ref (.cls { c with members := c.members.set name v })
  | none => world

/-- Whether attributes of a known class can be set. -/
def isOpen : KnownClass → Bool
  | .any | .baseModel | .invoice | .receipt | .base | .left | .right | .bottom | .loud | .mute
  | .outer | .inner | .dontLog | .appError | .childError | .validationError => true
  | _ => false

end World

namespace Run

/-- Replaces a member of a class by an object that logs its calls, if it is to be logged. -/
def instrumentMember (owner : Class) (ref : Nat) (interceptor : Interceptor)
    (member : String × Value) : Run Unit := do
  if (← Run.world).isInstrumentable member.1 member.2 then
    let wrapper ← wrap interceptor member.2
    setOwner owner wrapper
    Run.change (World.setMember ref member.1 (.object wrapper [.object]))

/-- Stores the configuration in a class and makes the calls of its public methods logged. -/
def instrument (interceptor : Interceptor) (owner : Class) : Run Unit :=
  match owner with
  | .known k =>
    if World.isOpen k then pure ()
    else Action.fault (.unsupported "the attributes of the class cannot be set")
  | .made ref _ => do
    let config ← Run.make (.config interceptor.config)
    Run.change (World.setMember ref "__logged__" config)
    let own := { interceptor with config := { logger := interceptor.config.logger } }
    ((← Run.world).ownMembers owner).forM (instrumentMember owner ref own)

/-- What a decoration that logs calls makes of a value: a class is instrumented, and anything else
is wrapped. -/
def decorate (interceptor : Interceptor) (v : Value) : Run Value :=
  match World.asClass? v with
  | some owner => do
    instrument interceptor owner
    return v
  | none => do return .object (← wrap interceptor v) [.object]

/-- The checked configuration of a decoration. -/
def checkConfig (message : Value) (level : Level) (logger : Option String) :
    Except Fault Config :=
  (Check.config (.dict [(.str "message", message), (.str "level", .str level.name),
    (.str "logger", (logger.map Value.str).getD .none)])).get

/-- The decoration with the given arguments. A message that can be called is no message: it is what
is decorated, and the arguments do not count. -/
def decoration (message : Value) (level : LevelSource) (logger : Value)
    (converters : Option Converters) (providers : Option (List Provider)) : Run Value := do
  let world ← Run.world
  if world.isCallable message || world.isStatic message || world.isClassMethod message then
    decorate {} message
  else
    let level ← match level with
      | .member l => pure l
      | .value v => Action.ofExcept (Level.ofValue world.naming v)
    let logger ← if logger.isNone then pure none
      else some <$> Action.ofExcept (world.loggerName logger)
    let config ← Action.ofExcept (checkConfig message level logger)
    Run.make (.decoration ⟨config, converters, providers⟩)

end Run

end CallLog
