import CallLog.Execution
import CallLog.Task.Gather
import CallLog.World.Reach

/-!
# Sessions

What can be asked of a loaded module: to call what a path leads to, alone or many times side by
side, to show the plan of a logged function, to look into the shared plan cache, and to say what
kind of thing a path leads to. Calls follow paths the way programs do; the other questions take what
a path leads to as it is held.
-/

namespace CallLog

namespace Session

open Evaluation (follow walk callAndAwait respond)

/-- What is called. -/
structure Callee where
  path : Path
  /-- the class of which an instance is made whose attribute is called -/
  on : Option Path := none
  /-- the class of which an instance is made that is the first argument -/
  receiver : Option Path := none

/-- A new instance of the class that a path leads to. -/
def newInstance (home : Nat) (path : Path) : Task World Value := do
  respond (.call (← follow respond home path) {})

/-- What is to be called. -/
def find (home : Nat) (callee : Callee) : Task World Value := do
  match callee.on with
  | none => follow respond home callee.path
  | some c => walk respond (← newInstance home c) callee.path.steps

/-- Calls what a path leads to and awaits the result. -/
def callTask (home : Nat) (callee : Callee) (arguments : Arguments) : Task World Value := do
  let v ← find home callee
  match callee.receiver with
  | none => callAndAwait v arguments
  | some c =>
    let receiver ← newInstance home c
    callAndAwait v { arguments with positional := receiver :: arguments.positional }

/-- Calls what a path leads to. -/
def call (home : Nat) (callee : Callee) (arguments : Arguments) : Run Value := do
  Run.settled (← (callTask home callee arguments).run)

/-- The values that the enclosing log contexts bind, as each task's own part of the world. -/
def boundPart : Part World (List (String × Value)) :=
  ⟨fun world => world.journal.bound,
    fun bound world => { world with journal := { world.journal with bound := bound } }⟩

/-- Calls what a path leads to with each of some lists of arguments, side by side. What a call
raises is its result. -/
def many (home : Nat) (callee : Callee) (arguments : List (List Value)) : Run (List Value) := do
  let tasks := arguments.map fun values => callTask home callee ⟨values, []⟩
  let outcomes ← Task.gather boundPart tasks
  return (← Run.world).settledAll (outcomes.map fun
    | .ok v => v
    | .error r => r.toValue)

/-- What a path leads to, as it is held. -/
def held (home : Nat) (path : Path) : Run Value := do
  match (← Run.world).rawPath? home path with
  | some v => return v
  | none => Action.fault (.noMember "module" (".".intercalate path.steps))

/-- The class that a path leads to. -/
def heldClass (home : Nat) (path : Path) : Run Class := do
  let v ← held home path
  match World.asClass? v with
  | some c => return c
  | none => do
    let world ← Run.world
    Action.ofExcept do throw (.noLoggerName (← world.shown v))

/-- The plan of a logged function. -/
def plan (home : Nat) (path : Path) : Run Plan := do
  let v ← held home path
  let world ← Run.world
  match v, world.behind? v with
  | .object ref _, some (.logged l) => return (← l.bound ref).point.plan
  | v, _ => Action.fault (.noMember (world.naming.kindOf v) "plan")

/-- Whether plans can be kept for a value. -/
def isReferable (world : World) : Value → Bool
  | .none | .bool _ | .int _ | .str _ | .bytes _ | .list _ | .tuple _ | .dict _ => false
  | .object ref _ =>
    match world.object? ref with
    | some (.items _) | some (.property _) => false
    | _ => true
  | _ => true

/-- The plan that the shared cache holds for a value. -/
def cached (home : Nat) (path : Path) : Run (Option Plan) := do
  let v ← held home path
  let world ← Run.world
  if !isReferable world v then Action.fault (.notReferable (world.naming.kindOf v))
  else
    match v with
    | .object ref _ => return (world.cache.find? ref).map StampedPlan.plan
    | _ => return none

/-- What kind of thing a path leads to. -/
structure Info where
  isLogged : Bool
  name : Option Value
  qualname : Option Value
  isCoroutine : Bool
  /-- whether the value tells what it wraps -/
  isWrapper : Bool
  display : String

/-- Whether a value tells what it wraps. -/
def isWrapper (world : World) (v : Value) : Bool :=
  match world.access? v "__wrapped__" with
  | some _ => true
  | none => false

/-- What kind of thing a value is. -/
def infoOf (world : World) (v : Value) : Except Fault Info := do
  let isLogged := match world.behind? v with
    | some (.logged _) => true
    | _ => false
  return {
    isLogged := isLogged
    name := world.label? v .name
    qualname := world.label? v .qualname
    isCoroutine := world.isCoroutine v
    isWrapper := isWrapper world v
    display := ← world.shown v }

/-- What kind of thing a path leads to. -/
def info (home : Nat) (path : Path) : Run Info := do
  let v ← held home path
  Action.ofExcept (infoOf (← Run.world) v)

/-- Whether two values are one. -/
def isSame : Value → Value → Bool
  | .object ref _, .object ref' _ => ref = ref'
  | .type (.cls c), .type (.cls d) => c = d
  | .none, .none => true
  | .bool b, .bool c => b = c
  | .int i, .int j => i = j
  | .str s, .str t => s = t
  | _, _ => false

/-- Whether two paths lead to one value. -/
def same (home : Nat) (p q : Path) : Run Bool := do
  let v ← held home p
  let w ← held home q
  return p = q || isSame v w

/-- Forgets all plans. -/
def clearPlans : Run Unit :=
  World.cachePart.update PlanCache.clear

end Session

end CallLog
