import CallLog.PlanCache.Script
import CallLog.Proofs.PlanCache.Fetch
import CallLog.Proofs.PlanCache.History

/-!
# Routines on a plan cache

A routine is any program that uses a plan cache: it goes on by what it is answered, and its
factories are routines themselves. It runs on the state of a script, and what happens is noted.
-/

namespace CallLog

namespace PlanCache

open ScriptState History

/-- The state of a script, with what happened so far. -/
structure Watched where
  script : ScriptState := {}
  history : List Event := []

namespace Watched

/-- A script that begins with an empty cache. -/
def start (j : Journal) : Watched where
  script := { journal := j }

/-- The script that is watched. -/
def scriptPart : Part Watched ScriptState :=
  ⟨script, fun script w => { w with script := script }⟩

/-- Notes an event. -/
def note (e : Event) : Action Watched Unit :=
  fun w => (.ok (), { w with history := e :: w.history })

end Watched

open Watched

/-- A program that uses a plan cache, its keys being given by names. It ends with a plan, as a
factory does, or by raising. -/
inductive Routine where
  | give (plan : Plan) (hplan : plan.IsCountable)
  | raise (r : Raised)
  | fetch (name : String) (factory : Routine) (next : Except Raised StampedPlan → Routine)
  | get (name : String) (next : Option StampedPlan → Routine)
  | size (next : Nat → Routine)
  | drop (name : String) (next : Routine)
  | clear (next : Routine)

/-- A factory for a key, whose runs are noted. -/
def observed (key : Nat) (factory : Action Watched Plan) : Action Watched Plan := do
  note (.started key)
  match ← factory.attempt with
  | .ok plan =>
    note (.completed key ⟨(← scriptPart.current).cache.fresh, plan⟩)
    return plan
  | .error r =>
    note (.failed key r)
    Action.raise r

/-- Runs a routine, and notes what happens. -/
def Routine.run : Routine → Action Watched Plan
  | give plan _ => return plan
  | raise r => Action.raise r
  | fetch name factory next => do
    let key ← scriptPart.lift (resolve (.named name))
    note (.asked key)
    let outcome ← (fetchObject scriptPart key (observed key factory.run)).attempt
    note (.returned key outcome)
    (next outcome).run
  | get name next => do
    let key ← scriptPart.lift (resolve (.named name))
    let found ← scriptPart.lift (getKey (.named name))
    note (.got key found)
    (next found).run
  | size next => do
    let n := (← scriptPart.current).cache.size
    note (.sized n)
    (next n).run
  | drop name next => do
    let key := (← scriptPart.current).names.lookup name
    let _ ← scriptPart.lift (ScriptOp.drop name).run
    match key with
    | some key => note (.dropped key)
    | none => pure ()
    next.run
  | clear next => do
    let _ ← scriptPart.lift ScriptOp.clear.run
    note .cleared
    next.run

/-- A plan with a message and nothing else. -/
def plain (message : String) : Plan where
  logger := "clock"
  level := .debug
  message := message

theorem isCountable_plain (message : String) : (plain message).IsCountable := by
  have hpos (limit : Nat) : decide (Nat.pow 10 limit ≤ 0) = false :=
    decide_eq_false (Nat.not_le.mpr (Nat.pow_pos (Nat.succ_pos 9)))
  exact hpos Text.digitLimit

end PlanCache

end CallLog
