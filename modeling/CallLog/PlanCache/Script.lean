import CallLog.PlanCache

/-!
# Scripts on a plan cache

Operations on a plan cache whose keys have names, as they can follow each other and be nested in the
factories of builds. The object behind a name is made when the name is first used and lives until
the name is dropped; while it is being built it stays alive even then. A plan lives as long as its
key.
-/

namespace CallLog

namespace PlanCache

/-- A key of a script: the object behind a name, or a value that cannot be a key. -/
inductive ScriptKey where
  | named (name : String)
  | value (v : Value)

/-- An operation on a plan cache. -/
inductive ScriptOp where
  /-- looks a plan up or builds it; the factory raises, or runs another operation and then makes the
  plan, which may fail -/
  | fetch (key : ScriptKey) (plan : Except Fault Plan) (raises : Option Raised)
      (nested : Option ScriptOp)
  | get (key : ScriptKey)
  /-- whether two keys have the same plan -/
  | same (key other : ScriptKey)
  | clear
  | drop (name : String)
  /-- many threads that look a plan up at once; the first factory to run may raise -/
  | race (key : ScriptKey) (threads : Nat) (plan : Except Fault Plan) (raises : Option Raised)
  /-- an operation without effect -/
  | nothing

/-- What an operation answers. -/
inductive ScriptAnswer where
  | nothing
  | message (m : Option String)
  | truth (b : Bool)
  | raced (failed : Nat) (same : Bool) (message : Option String)

/-- The state of a script. -/
structure ScriptState where
  cache : PlanCache Nat := {}
  journal : Journal := {}
  /-- the objects behind the names that are alive -/
  names : List (String × Nat) := []
  /-- the objects that are in use by a build -/
  busy : List Nat := []
  /-- the number of objects made -/
  objects : Nat := 0
  /-- how often a factory ran -/
  builds : Nat := 0

namespace ScriptState

/-- The cache of a script. -/
def cachePart : Part ScriptState (PlanCache Nat) :=
  ⟨cache, fun cache s => { s with cache := cache }⟩

/-- The journal of a script. -/
def journalPart : Part ScriptState Journal :=
  ⟨journal, fun journal s => { s with journal := journal }⟩

/-- Changes the state of a script. -/
def change (f : ScriptState → ScriptState) : Action ScriptState Unit :=
  fun s => (.ok (), f s)

/-- The state of a script. -/
def current : Action ScriptState ScriptState :=
  fun s => (.ok s, s)

/-- Whether an object is alive. -/
def isAlive (s : ScriptState) (object : Nat) : Bool :=
  s.names.any (fun e => e.2 = object) || s.busy.contains object

/-- The state without the plan of an object that is no longer alive. -/
def sweep (object : Nat) (s : ScriptState) : ScriptState :=
  if s.isAlive object then s else { s with cache := s.cache.forget object }

end ScriptState

open ScriptState

/-- The object behind a key. -/
def resolve : ScriptKey → Action ScriptState Nat
  | .value v => .fault (.notReferable (Naming.empty.kindOf v))
  | .named name => do
    let s ← current
    match s.names.lookup name with
    | some object => return object
    | none =>
      change fun s => { s with names := (name, s.objects) :: s.names, objects := s.objects + 1 }
      return s.objects

/-- An action during which an object is in use. -/
def keeping {σ α : Type} (part : Part σ ScriptState) (object : Nat) (x : Action σ α) :
    Action σ α := do
  part.update fun s => { s with busy := object :: s.busy }
  x.always fun whole =>
    let s := part.read whole
    part.write (({ s with busy := s.busy.erase object }).sweep object) whole

/-- The plan for an object, built by a factory if there is none. -/
def fetchObject {σ : Type} (part : Part σ ScriptState) (object : Nat) (make : Action σ Plan) :
    Action σ StampedPlan :=
  keeping part object (fetch (cachePart.inside part) (journalPart.inside part) object make)

/-- The factory of a build: it raises, or runs something first and then makes the plan. -/
def factory (plan : Except Fault Plan) (raises : Option Raised) (first : Action ScriptState Unit) :
    Action ScriptState Plan := do
  change fun s => { s with builds := s.builds + 1 }
  match raises with
  | some r => .raise r
  | none =>
    first
    .ofExcept plan

/-- The plan behind a key, built by a factory if there is none. -/
def fetchKey (key : ScriptKey) (make : Action ScriptState Plan) :
    Action ScriptState StampedPlan := do
  let object ← resolve key
  fetchObject .whole object make

/-- The plan behind a key, if there is one. -/
def getKey (key : ScriptKey) : Action ScriptState (Option StampedPlan) := do
  let object ← resolve key
  return (← current).cache.find? object

/-- Many threads that look a plan up at once: one builds at a time, and the first factory to run may
raise. Gives how many lookups raised and the plans of the others. -/
def raceKey (key : ScriptKey) (plan : Except Fault Plan) :
    Option Raised → Nat → Action ScriptState (Nat × List StampedPlan)
  | _, 0 => return (0, [])
  | raises, threads + 1 => do
    match ← (fetchKey key (factory plan raises (pure ()))).attempt with
    | .ok stamped => do
      let (failed, plans) ← raceKey key plan none threads
      return (failed, stamped :: plans)
    | .error _ => do
      let (failed, plans) ← raceKey key plan none threads
      return (failed + 1, plans)

/-- Whether all plans of a list are one. -/
def areSame : List StampedPlan → Bool
  | p :: q :: rest => p.stamp = q.stamp && areSame (q :: rest)
  | _ => true

mutual

/-- Runs an operation of a script. -/
def ScriptOp.run : ScriptOp → Action ScriptState ScriptAnswer
  | .fetch key plan raises nested => do
    let stamped ← fetchKey key (factory plan raises (runNested nested))
    return .message (some stamped.plan.message)
  | .get key => do return .message ((← getKey key).map fun stamped => stamped.plan.message)
  | .same key other => do
    let p ← getKey key
    let q ← getKey other
    return .truth (p.map StampedPlan.stamp = q.map StampedPlan.stamp)
  | .clear => do
    cachePart.update .clear
    return .nothing
  | .drop name => do
    let s ← current
    match s.names.lookup name with
    | some object =>
      change fun s => ({ s with names := s.names.filter fun e => e.1 ≠ name }).sweep object
      return .nothing
    | none => return .nothing
  | .race key threads plan raises => do
    let (failed, plans) ← raceKey key plan raises threads
    return .raced failed (areSame plans) (plans.head?.map fun stamped => stamped.plan.message)
  | .nothing => return .nothing

/-- Runs the operation that is nested in a factory, if there is one. -/
def runNested : Option ScriptOp → Action ScriptState Unit
  | none => pure ()
  | some op => do
    let _ ← op.run

end

end PlanCache

end CallLog
