import CallLog.World.Naming

/-!
# Looking names up

Attributes of objects and classes, the namespaces of a program, and paths from its module. An
attribute of a class is looked up along the line of its ancestors. A path gives the raw attributes
that classes hold: nothing is bound to a receiver on the way.

The names that every module knows from the start are `World.builtin?`.
-/

namespace CallLog

namespace Members

/-- What a name stands for. -/
def get? (members : Members) (name : String) : Option Value :=
  members.lookup name

/-- The members with a name standing for a value; a new name comes last. -/
def set (members : Members) (name : String) (v : Value) : Members :=
  Document.insert name v members

/-- The members without a name. -/
def erase (members : Members) (name : String) : Members :=
  members.filter fun e => e.1 ≠ name

end Members

namespace World

/-- The known classes whose names every module knows. -/
def builtinClasses : List KnownClass :=
  [.int, .str, .bool, .float, .bytes, .list, .dict, .tuple, .set, .object, .type, .any, .noneType,
   .baseModel, .base, .left, .right, .bottom, .loud, .mute, .invoice, .receipt, .dontLog,
   .baseException, .exception, .valueError, .typeError, .keyError, .indexError, .lookupError,
   .runtimeError, .osError, .timeoutError, .arithmeticError, .zeroDivisionError,
   .keyboardInterrupt, .systemExit, .notImplementedError, .recursionError, .connectionError,
   .stopIteration, .attributeError, .appError, .childError]

/-- What a name stands for that every module knows from the start. -/
def builtin? (name : String) : Option Value :=
  match builtinClasses.find? fun k => k.qualname = name with
  | some k => some (.type (.ofKnown k))
  | none =>
    match name with
    | "NoReturn" => some (.type .noReturn)
    | "Never" => some (.type .never)
    | "TypeVar" => some (.type .typeVar)
    | "Annotated" => some (.type (.form .annotated))
    | "Optional" => some (.type (.form .optional))
    | "Union" => some (.type (.form .union))
    | "List" => some (.type (.form .list))
    | _ => none

/-- The function that gives the length of a value: the first object of every world. -/
def len : Value :=
  .object 0 [.object]

/-- The members of a module. -/
def moduleMembers (world : World) (ref : Nat) : Members :=
  match world.object? ref with
  | some (.module _ members) => members
  | some (.space members) => members
  | _ => []

/-- What a name stands for in a module. -/
def moduleGet? (world : World) (ref : Nat) (name : String) : Option Value :=
  ((world.moduleMembers ref).get? name).orElse fun _ => builtin? name

/-- The members that a class has itself. -/
def ownMembers (world : World) : Class → Members
  | .known .outer => [("Inner", .type (.ofKnown .inner))]
  | .known _ => []
  | .made ref _ =>
    match world.class? ref with
    | some c => c.members
    | none => []

/-- A class and its ancestors, ordered. -/
def lineOf (world : World) : Class → List Class
  | .known k => k.line.map .known
  | .made ref _ =>
    match world.class? ref with
    | some c => c.line
    | none => []

/-- What an attribute of a class is, looked up along its ancestors. -/
def classGet? (world : World) (c : Class) (name : String) : Option Value :=
  (world.lineOf c).findSome? fun d => (world.ownMembers d).get? name

/-- The class that an object is an instance of, if attributes are looked up there. -/
def instanceClass? (world : World) (v : Value) : Option Class :=
  match v with
  | .error c _ => some c
  | v =>
    match world.behind? v with
    | some (.instance c _) => some c
    | _ => none

/-- The class that a value is. -/
def asClass? : Value → Option Class
  | .type (.cls c) => some c
  | _ => none

/-- What a name inside a value stands for, nothing being bound on the way. -/
def rawGet? (world : World) (v : Value) (name : String) : Option Value :=
  match asClass? v with
  | some c => world.classGet? c name
  | none =>
    match v, world.behind? v with
    | .object ref _, some (.module _ _) => world.moduleGet? ref name
    | _, some (.instance c members) => (members.get? name).orElse fun _ => world.classGet? c name
    | v, _ =>
      match world.instanceClass? v with
      | some c => world.classGet? c name
      | none => none

/-- What the steps of a path lead to, nothing being bound on the way. -/
def walkRaw (world : World) : Value → List String → Option Value
  | v, [] => some v
  | v, name :: rest => (world.rawGet? v name).bind fun w => walkRaw world w rest

/-- The name under which a module keeps the names inside a function. -/
def insideName (function : String) : String :=
  function ++ ":"

/-- The names where a path begins: those of the module, or those inside a function. -/
def start? (world : World) (home : Nat) (path : Path) : Option Nat :=
  match path.inside with
  | none => some home
  | some function =>
    match (world.moduleMembers home).get? (insideName function) with
    | some (.object ref _) => some ref
    | _ => none

/-- What a path from a module leads to, nothing being bound on the way. -/
def rawPath? (world : World) (home : Nat) (path : Path) : Option Value :=
  match world.start? home path, path.steps with
  | some ref, name :: rest => (world.moduleGet? ref name).bind fun v => world.walkRaw v rest
  | _, _ => none

/-! ## What something is called and where it was defined -/

/-- What a class is called or where it was defined. -/
def classLabel (world : World) (c : Class) (label : Label) : Option Value :=
  match c with
  | .known k =>
    match label with
    | .name => some (.str k.name)
    | .qualname => some (.str k.qualname)
    | .module => some (.str k.module)
  | .made ref _ =>
    match world.class? ref with
    | none => none
    | some c =>
      match label with
      | .name => some (.str c.name)
      | .qualname => some (.str c.qualname)
      | .module => some c.module

/-- Labels that are all texts. -/
def textLabels (name qualname module : String) (label : Label) : Option Value :=
  match label with
  | .name => some (.str name)
  | .qualname => some (.str qualname)
  | .module => some (.str module)

/-- The module of an instance, which has no name of its own. -/
def onlyModule (module : Option Value) : Label → Option Value
  | .module => module
  | _ => none

/-- The module of a value of which only the class is known, if it has one. Functions have one. -/
def freshModule? (k : KnownClass) : Option Value :=
  if k.module ≠ "builtins" then some (.str k.module)
  else if [.function, .builtinFunction, .method].contains k then some (.str "builtins")
  else none

/-- What a value is called or where it was defined. A method has the labels of its function; an
instance has the module of its class. The number bounds how deep methods are nested. -/
def labelWithin (world : World) : Nat → Value → Label → Option Value
  | 0, _, _ => none
  | fuel + 1, v, label =>
    match asClass? v with
    | some c => world.classLabel c label
    | none =>
      match world.behind? v with
      | some (.function f) =>
        match label with
        | .name => some (.str f.name)
        | .qualname => some (.str f.qualname)
        | .module => some f.module
      | some (.logged l) =>
        (l.labels.get? label).orElse fun _ => onlyModule (some (.str "logpoint.interceptor")) label
      | some (.staticMethod _ labels) => labels.get? label
      | some (.classMethod _ labels) => labels.get? label
      | some (.method func _) => world.labelWithin fuel func label
      | some (.instance c _) => onlyModule (world.classLabel c .module) label
      | some (.partly ..) => onlyModule (some (.str "functools")) label
      | some (.builtin name) => textLabels name name "builtins" label
      | some (.module name _) =>
        match label with
        | .name => some (.str name)
        | _ => none
      | some (.decoration _) =>
        textLabels "decorator" "logged.<locals>.decorator" "logpoint.interceptor" label
      | _ =>
        match v with
        | .specimen .. | .model _ => onlyModule (some (.str "__main__")) label
        | .fresh (.made ref ks) => onlyModule (world.classLabel (.made ref ks) .module) label
        | .fresh (.known k) => onlyModule (freshModule? k) label
        | .error (.made ref ks) _ => onlyModule (world.classLabel (.made ref ks) .module) label
        | .error (.known .appError) _ | .error (.known .childError) _ =>
          onlyModule (some (.str "builtins")) label
        | _ => none

/-- A bound on how deep objects are nested in each other. -/
def depth (world : World) : Nat :=
  world.objects.size + 1

/-- What a value is called or where it was defined. -/
def label? (world : World) (v : Value) (label : Label) : Option Value :=
  world.labelWithin world.depth v label

/-- The labels that a wrapper takes over from a value. -/
def labelsOf (world : World) (v : Value) : Labels where
  name := world.label? v .name
  qualname := world.label? v .qualname
  module := world.label? v .module

/-- Whether a value can be called. -/
def isCallable (world : World) (v : Value) : Bool :=
  match v with
  | .type (.alternatives _) | .type .none | .type (.text _) | .type .typeVar
  | .type (.data ..) | .type (.reference _) => false
  | .type _ => true
  | .error c _ | .fresh c => (world.classGet? c "__call__").isSome
  | v =>
    match world.behind? v with
    | some (.function _) | some (.staticMethod ..) | some (.partly ..) | some (.method ..)
    | some (.logged _) | some (.decoration _) | some (.builtin _) | some (.cls _) => true
    | some (.instance c _) => (world.classGet? c "__call__").isSome
    | _ => false

end World

end CallLog
