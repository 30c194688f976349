import CallLog.Logger
import CallLog.Plan

/-!
# The plan cache

Plans are built once for each key and then kept. Building a plan is an action that may itself use
the cache, so a lock for each key guards the build: the lock is looked up, the cache is looked at
once more, the factory runs, and only then is the plan stored and its making reported. A factory
that raises stores nothing.

Clearing the cache forgets the plans and the locks, also those that are held. A build that was under
way goes on and stores its plan when it is done.

Each plan that is stored gets a stamp of its own, which tells it from an equal plan that is built
later.
-/

namespace CallLog

/-- A plan with the stamp that it got when it was made. -/
structure StampedPlan where
  stamp : Nat
  plan : Plan

/-- Plans by key, the latest first, and the locks that are held. -/
structure PlanCache (κ : Type) where
  entries : List (κ × StampedPlan) := []
  /-- the keys whose lock is held, with the number of the lock -/
  held : List (κ × Nat) := []
  /-- a number that no stamp and no lock has yet -/
  fresh : Nat := 0

namespace PlanCache

variable {κ σ : Type} [DecidableEq κ]

/-- The plan for a key. -/
def find? (cache : PlanCache κ) (key : κ) : Option StampedPlan :=
  cache.entries.lookup key

/-- The cache without the plan for a key. -/
def erase (cache : PlanCache κ) (key : κ) : PlanCache κ :=
  { cache with entries := cache.entries.filter fun e => e.1 ≠ key }

/-- The cache with a plan for a key. -/
def insert (cache : PlanCache κ) (key : κ) (plan : StampedPlan) : PlanCache κ :=
  { cache.erase key with entries := (key, plan) :: (cache.erase key).entries }

/-- Whether the lock for a key is held. -/
def isHeld (cache : PlanCache κ) (key : κ) : Bool :=
  cache.held.any fun lock => lock.1 = key

/-- The cache with a new lock for a key held; its number is the one that was fresh. -/
def acquire (cache : PlanCache κ) (key : κ) : PlanCache κ :=
  { cache with held := (key, cache.fresh) :: cache.held, fresh := cache.fresh + 1 }

/-- The cache with a lock given back, if the cache still knows it. -/
def release (cache : PlanCache κ) (number : Nat) : PlanCache κ :=
  { cache with held := cache.held.filter fun lock => lock.2 ≠ number }

/-- The cache without plans and locks. -/
def clear (cache : PlanCache κ) : PlanCache κ :=
  { cache with entries := [], held := [] }

/-- The cache without a key that is no longer alive. -/
def forget (cache : PlanCache κ) (key : κ) : PlanCache κ :=
  { cache.erase key with held := cache.held.filter fun lock => lock.1 ≠ key }

/-- How many plans there are. -/
def size (cache : PlanCache κ) : Nat :=
  cache.entries.length

/-- The part of the library that reports on the cache. -/
def reporter : String :=
  "runtime.cache"

/-- The fields of the report that a plan was built. -/
def builtFields (plan : Plan) : List (String × Value) :=
  [("plan_logger", .str plan.logger), ("plan_level", .str plan.level.name),
    ("message", .str plan.message), ("parameters", .int plan.parameters.length)]

/-- Reports that a plan was built. -/
def reportBuilt (plan : Plan) : Logging Unit :=
  Logger.report Naming.empty reporter "debug" "plan_built" (builtFields plan)

/-- Gives a plan a stamp and keeps it under a key. -/
def store (part : Part σ (PlanCache κ)) (key : κ) (plan : Plan) : Action σ StampedPlan := do
  let stamped := ⟨(← part.current).fresh, plan⟩
  part.update fun cache => { cache.insert key stamped with fresh := cache.fresh + 1 }
  return stamped

/-- The plan for a key, built by a factory while the lock for the key is held. -/
def build (part : Part σ (PlanCache κ)) (journal : Part σ Journal) (key : κ)
    (factory : Action σ Plan) : Action σ StampedPlan := do
  let plan ← factory
  let stamped ← store part key plan
  journal.lift (reportBuilt plan)
  return stamped

/-- The plan for a key, looked up once more and built by a factory if there is none yet, while the
lock for the key is held. -/
def buildUnlessThere (part : Part σ (PlanCache κ)) (journal : Part σ Journal) (key : κ)
    (factory : Action σ Plan) : Action σ StampedPlan := do
  match (← part.current).find? key with
  | some stamped => return stamped
  | none => build part journal key factory

/-- The plan for a key, built by a factory if there is none yet. -/
def fetch (part : Part σ (PlanCache κ)) (journal : Part σ Journal) (key : κ)
    (factory : Action σ Plan) : Action σ StampedPlan := do
  let cache ← part.current
  match cache.find? key with
  | some stamped => return stamped
  | none =>
    if cache.isHeld key then .fault .deadlock
    else
      part.update fun cache => cache.acquire key
      (buildUnlessThere part journal key factory).always fun s =>
        part.write ((part.read s).release cache.fresh) s

end PlanCache

end CallLog
