import CallLog.Object

/-!
# Values as they are now

A list that can be changed is an object. Where a value is logged or shown, what counts is what the
list holds at that moment.
-/

namespace CallLog

namespace World

mutual

/-- A value with the lists in it as they are now. -/
def settled (world : World) : Value → Value
  | .list xs => .list (world.settledAll xs)
  | .tuple xs => .tuple (world.settledAll xs)
  | .dict entries => .dict (world.settledEntries entries)
  | .error c args => .error c (world.settledAll args)
  | .specimen k field => .specimen k (world.settled field)
  | .object ref line =>
    match world.object? ref with
    | some (.items xs) => .list xs
    | _ => .object ref line
  | v => v

/-- Some values with the lists in them as they are now. -/
def settledAll (world : World) : List Value → List Value
  | [] => []
  | v :: vs => world.settled v :: world.settledAll vs

/-- The entries of a dictionary with the lists in them as they are now. -/
def settledEntries (world : World) : List (Value × Value) → List (Value × Value)
  | [] => []
  | (k, v) :: rest => (k, world.settled v) :: world.settledEntries rest

end

end World

/-- A value with the lists in it as they are now. -/
def Run.settled (v : Value) : Run Value := do
  return (← Run.world).settled v

end CallLog
