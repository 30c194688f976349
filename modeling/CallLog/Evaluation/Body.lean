import CallLog.Evaluation.Path
import CallLog.Value.Key
import CallLog.World.Frame
import CallLog.World.Settled

/-!
# Bodies of functions

What a function does with its arguments when its body runs. An asynchronous body awaits the results
of its calls.
-/

namespace CallLog

namespace Evaluation

/-- The value of a name in a frame. -/
def valueIn (frame : Frame) (name : String) : Task World Value := do
  Task.ofAction (Action.ofExcept (frame.get (← Run.world) name))

/-- Raises a value. A class of exceptions is called first. -/
def raiseValue (v : Value) : Task World Value :=
  match v with
  | .type (.cls c) =>
    if c.isRaisable then Task.raise (.made c []) else Task.fault .notRaisable
  | v =>
    match Raised.ofValue? v with
    | some r => Task.raise r
    | none => Task.fault .notRaisable

/-- Puts a value at the end of a list. -/
def appendTo (list v : Value) : Run Value := do
  let world ← Run.world
  match list, world.behind? list with
  | .list xs, _ => return .list (xs ++ [v])
  | .object ref _, some (.items xs) =>
    Run.change (World.put ref (.items (xs ++ [v])))
    return list
  | list, _ => Action.fault (.noMember (world.naming.kindOf list) "append")

/-- A value put before a list. -/
def prepend (v list : Value) : Run Value := do
  match (← Run.world).settled list with
  | .list xs => return .list (v :: xs)
  | _ => Action.fault (.unsupported "only lists can be joined to a list")

/-- A computation inside a log context. -/
def within (values : Context.Fields) (x : Task World Value) : Task World Value := do
  let outer := (← Run.world).journal.bound
  Task.always
    (do
      Run.logging (Context.bind values)
      x)
    fun world => { world with journal := { world.journal with bound := outer } }

/-- Whether a value can be awaited. -/
def isAwaitable (world : World) (v : Value) : Bool :=
  match world.behind? v with
  | some (.coroutine ..) => true
  | _ => false

/-- A call in a body. An asynchronous body awaits the result if it can be awaited. -/
def callIn (respond : Responder) (frame : Frame) (callee : Value) (arguments : List Value) :
    Task World Value := do
  let result ← respond (.call callee ⟨arguments, []⟩)
  let world ← Run.world
  if frame.isAsync && isAwaitable world result then respond (.await result) else return result

/-- Does what a function does. -/
def perform (respond : Responder) (frame : Frame) : Deed → Task World Value
  | .rest => pure .none
  | .give v => pure v
  | .argument name => valueIn frame name
  | .arguments => pure (.list frame.arguments)
  | .raises r => Task.raise r
  | .raisesArgument name => do raiseValue (← valueIn frame name)
  | .append name v => do return ← appendTo (← valueIn frame name) v
  | .call path pass => do
    let callee ← follow respond frame.home path
    callIn respond frame callee (← pass.mapM (valueIn frame))
  | .method name pass => do
    let callee ← member respond (← valueIn frame "self") name
    callIn respond frame callee (← pass.mapM (valueIn frame))
  | .countdown name path => do
    let v ← valueIn frame name
    match v.count? with
    | none => Task.fault (.unsupported "the value cannot be counted down")
    | some n =>
      if n ≤ 0 then return .list []
      else
        let callee ← follow respond frame.home path
        return ← prepend v (← callIn respond frame callee [.int (n - 1)])
  | .within values deed => within values (perform respond frame deed)
  | .pause deed => do
    Task.pause
    perform respond frame deed

/-- Runs the body of a function. -/
def runBody (respond : Responder) (f : Function) (values : List Value) : Task World Value :=
  perform respond (.ofCall f values) f.deed

end Evaluation

end CallLog
