import CallLog.LogPoint
import CallLog.PlanCache
import CallLog.Program

/-!
# Objects and worlds

What has an identity of its own lives in a world as an object: modules, classes, instances,
functions and everything that stands around functions. A reference is the position of an object;
objects are never removed.

Besides the objects a world holds the journal of logging, the shared plan cache, whose keys are the
references of logged functions, and the modules that are found by name.
-/

namespace CallLog

/-- Names and what they stand for, in the order in which they came. -/
abbrev Members := List (String × Value)

/-- A function: its attributes, its parameters, and what it does. -/
structure Function where
  name : String
  qualname : String
  /-- the value that names the module; anything can be put there -/
  module : Value
  signature : Signature
  isAsync : Bool := false
  deed : Deed := .rest
  /-- the module whose names the function sees -/
  home : Nat

/-- A class that a program made. -/
structure ClassObject where
  name : String
  qualname : String
  /-- the value that names the module; anything can be put there -/
  module : Value
  /-- the class and its ancestors, ordered -/
  line : List Class
  members : Members

/-- What says how something is called or where it was defined. -/
inductive Label where
  | name
  | qualname
  | module
  deriving Repr, DecidableEq

/-- The labels that a wrapper takes over from what it wraps, as far as that has them. -/
structure Labels where
  name : Option Value := none
  qualname : Option Value := none
  module : Option Value := none

/-- The value of a label. -/
def Labels.get? (labels : Labels) : Label → Option Value
  | .name => labels.name
  | .qualname => labels.qualname
  | .module => labels.module

/-- A log point with the stamp of its plan and the logger that was made for it. -/
structure BoundPoint where
  stamp : Nat
  point : LogPoint
  logger : Logger

/-- How calls are to be logged. -/
structure Interceptor where
  config : Config := {}
  converters : Option Converters := none
  providers : Option (List Provider) := none

/-- A function, or something like it, whose calls are logged. -/
structure LoggedFunction where
  /-- what was decorated -/
  func : Value
  /-- the callable behind it -/
  target : Value
  interceptor : Interceptor
  /-- the class that the function belongs to -/
  owner : Option Class := none
  signature : Signature
  isAsync : Bool
  /-- the log point in use -/
  current : Option BoundPoint := none
  labels : Labels
  /-- the callable that was wrapped last -/
  wrapped : Value

/-- What a coroutine does when it is awaited. -/
inductive Job where
  /-- the body of a function, with its arguments bound -/
  | body (function : Nat) (frame : List Value)
  /-- a logged call -/
  | logged (ref : Nat) (arguments : Arguments)
  /-- nothing: it was awaited already -/
  | over

/-- An object of a world. -/
inductive Object where
  | module (name : String) (members : Members)
  /-- the names inside a function or a class body that is being executed -/
  | space (members : Members)
  | function (f : Function)
  | cls (c : ClassObject)
  | instance (c : Class) (members : Members)
  | staticMethod (func : Value) (labels : Labels)
  | classMethod (func : Value) (labels : Labels)
  /-- the function that answers for an attribute -/
  | property (getter : Value)
  | partly (func : Value) (given : List Value)
  | method (func : Value) (receiver : Value)
  | logged (l : LoggedFunction)
  | config (c : Config)
  /-- the decoration that waits for what it decorates -/
  | decoration (interceptor : Interceptor)
  | builtin (name : String)
  /-- a list that can be changed -/
  | items (xs : List Value)
  | coroutine (name : String) (job : Job)

/-- The state of a program and of the logging around it. -/
structure World where
  journal : Journal := {}
  objects : Array Object := #[.builtin "len"]
  /-- the modules that are found by name -/
  registered : List (String × Nat) := []
  cache : PlanCache Nat := {}

/-- A computation in a world. -/
abbrev Run := Action World

namespace World

/-- The object behind a reference. -/
def object? (world : World) (ref : Nat) : Option Object :=
  world.objects[ref]?

/-- The class that an object is, if it is one. -/
def class? (world : World) (ref : Nat) : Option ClassObject :=
  match world.object? ref with
  | some (.cls c) => some c
  | _ => none

/-- The object behind a value. -/
def behind? (world : World) : Value → Option Object
  | .object ref _ => world.object? ref
  | .type (.cls (.made ref _)) => world.object? ref
  | _ => none

/-- The journal of a world. -/
def journalPart : Part World Journal :=
  ⟨World.journal, fun journal world => { world with journal := journal }⟩

/-- The shared plan cache of a world. -/
def cachePart : Part World (PlanCache Nat) :=
  ⟨World.cache, fun cache world => { world with cache := cache }⟩

/-- The world with an object replaced. -/
def put (ref : Nat) (object : Object) (world : World) : World :=
  { world with objects := world.objects.setIfInBounds ref object }

end World

namespace Run

/-- The world. -/
def world : Run World :=
  fun w => (.ok w, w)

/-- Changes the world. -/
def change (f : World → World) : Run Unit :=
  fun w => (.ok (), f w)

/-- A new object. -/
def allocate (object : Object) : Run Nat :=
  fun w => (.ok w.objects.size, { w with objects := w.objects.push object })

/-- A new object as a value. Its class has no known ancestors but `object`. -/
def make (object : Object) : Run Value := do
  return .object (← allocate object) [.object]

/-- A computation that logs, in a world. -/
def logging {α : Type} (x : Logging α) : Run α :=
  World.journalPart.lift x

end Run

end CallLog
