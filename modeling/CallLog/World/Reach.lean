import CallLog.Object

/-!
# What is reached

The objects that can be reached from some references: by members, by the line of a class, by what a
wrapper stands around, by the defaults and annotations of a function, by the class that a logged
function belongs to and by the plan in use for it.

A plan in the shared cache counts as long as its logged function is reached; the plans themselves
hold the classes in their annotations.
-/

namespace CallLog

namespace Reach

/-- The objects that a class is or derives from, as far as it says so itself. -/
def ofClass : Class → List Nat
  | .known _ => []
  | .made ref _ => [ref]

mutual

/-- The classes in an annotation. -/
def ofHint : TypeHint → List Nat
  | .cls c => ofClass c
  | .union ms | .alternatives ms => ofHints ms
  | .generic _ as => ofHints as
  | .listOf a | .typeOf a | .annotated a _ => ofHint a
  | _ => []

/-- The classes in some annotations. -/
def ofHints : List TypeHint → List Nat
  | [] => []
  | a :: as => ofHint a ++ ofHints as

end

mutual

/-- The objects in a value. -/
def ofValue : Value → List Nat
  | .list xs | .tuple xs => ofValues xs
  | .dict entries => ofEntries entries
  | .error c args => ofClass c ++ ofValues args
  | .specimen _ field => ofValue field
  | .type a => ofHint a
  | .object ref _ => [ref]
  | _ => []

/-- The objects in some values. -/
def ofValues : List Value → List Nat
  | [] => []
  | v :: vs => ofValue v ++ ofValues vs

/-- The objects in the entries of a dictionary. -/
def ofEntries : List (Value × Value) → List Nat
  | [] => []
  | (k, v) :: rest => ofValue k ++ ofValue v ++ ofEntries rest

end

/-- The objects that members stand for. -/
def ofMembers (members : Members) : List Nat :=
  ofValues (members.map Prod.snd)

/-- The objects in a signature. -/
def ofSignature (signature : Signature) : List Nat :=
  ofHints (signature.returns.toList ++ signature.params.filterMap Param.hint) ++
    ofValues (signature.params.filterMap Param.default)

/-- The classes in the annotations of a plan. -/
def ofPlan (plan : Plan) : List Nat :=
  ofHints (plan.errorParameter.toList.map ErrorParameter.hint ++ plan.parameters.filterMap fun
    | .live _ _ hint => some hint
    | .static _ => none)

/-- What a coroutine holds. -/
def ofJob : Job → List Nat
  | .body function values => function :: ofValues values
  | .logged ref arguments =>
    ref :: ofValues (arguments.positional ++ arguments.named.map Prod.snd)
  | .over => []

/-- What a logged function holds. -/
def ofLogged (l : LoggedFunction) : List Nat :=
  ofValues [l.func, l.target, l.wrapped] ++ (l.owner.map ofClass).getD [] ++
    ofSignature l.signature ++ (l.current.map fun bound => ofPlan bound.point.plan).getD []

/-- What an object holds. -/
def ofObject : Object → List Nat
  | .module _ members | .space members => ofMembers members
  | .function f => f.home :: ofSignature f.signature
  | .cls c => c.line.flatMap ofClass ++ ofMembers c.members
  | .instance c members => ofClass c ++ ofMembers members
  | .staticMethod func _ | .classMethod func _ => ofValue func
  | .property getter => ofValue getter
  | .partly func given => ofValues (func :: given)
  | .method func receiver => ofValues [func, receiver]
  | .logged l => ofLogged l
  | .items xs => ofValues xs
  | .coroutine _ job => ofJob job
  | .config _ | .decoration _ | .builtin _ => []

/-- The references reached from some others after at most the given number of steps. -/
def within (world : World) : Nat → List Nat → List Nat
  | 0, seen => seen
  | n + 1, seen =>
    let next := seen.flatMap fun ref => ((world.object? ref).map ofObject).getD []
    let fresh := (next.filter fun ref => !seen.contains ref).eraseDups
    if fresh.isEmpty then seen else within world n (seen ++ fresh)

/-- The references reached from a module, from the modules found by name, and from the plans in the
shared cache. -/
def fromModule (world : World) (home : Nat) : List Nat :=
  let plans := world.cache.entries.flatMap fun e => ofPlan e.2.plan
  within world world.objects.size (home :: world.registered.map Prod.snd ++ plans).eraseDups

end Reach

/-- How many plans in the shared cache belong to logged functions that are reached. -/
def World.livePlans (world : World) (home : Nat) : Nat :=
  let reached := Reach.fromModule world home
  (world.cache.entries.filter fun e => reached.contains e.1).length

end CallLog
