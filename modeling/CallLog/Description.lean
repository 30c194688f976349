import CallLog.Schema
import CallLog.World.Hints
import CallLog.World.Signatures

/-!
# Describing callables

`describe` gathers the metadata of a callable of a program: its parameters with their resolved
annotations, the scopes around it, and what it is declared to return. The receiver of a method is
left out. If the annotations cannot be resolved, that is reported, and they are taken as they are
written.

The enclosing classes are found by following the qualified name through the module. Where that is
not possible, only the class that the callable is known to belong to is left.
-/

namespace CallLog

namespace World

/-- The callable behind a static method or a class method. -/
def unwrap (world : World) (v : Value) : Value :=
  match world.behind? v with
  | some (.staticMethod func _) | some (.classMethod func _) => func
  | _ => v

/-- Whether a value is a static method. -/
def isStatic (world : World) (v : Value) : Bool :=
  match world.behind? v with
  | some (.staticMethod ..) => true
  | _ => false

/-- Whether a value is a class method. -/
def isClassMethod (world : World) (v : Value) : Bool :=
  match world.behind? v with
  | some (.classMethod ..) => true
  | _ => false

/-- The display of a value. -/
def shown (world : World) (v : Value) : Except Fault String := do
  return String.ofList (← v.display world.naming)

/-! ## Scopes -/

/-- The text of a class's module and qualified name, joined by a dot. -/
def dottedName (world : World) (c : Class) : String :=
  let text (label : Label) := ((world.classLabel c label).map nameText).getD ""
  text .module ++ "." ++ text .qualname

/-- The logger name that a value gives: a text stands for itself, a module and a class for their
names. -/
def loggerName (world : World) (v : Value) : Except Fault String :=
  match v with
  | .str s => .ok s
  | .type (.cls c) => .ok (world.dottedName c)
  | v =>
    match world.behind? v with
    | some (.module name _) => .ok name
    | _ => do throw (.noLoggerName (← world.shown v))

/-- The configuration among the members of a class or module. -/
def configAmong (world : World) (members : Members) : Option Config :=
  match members.get? "__logged__" with
  | some v =>
    match world.behind? v with
    | some (.config c) => some c
    | _ => none
  | none => none

/-- Whether a value counts as a name of a module. -/
def isGiven : Value → Bool
  | .none | .bool false | .str "" | .int 0 | .list [] | .tuple [] | .dict [] | .bytes [] => false
  | _ => true

/-- The module of a value, as its label says. -/
def moduleLabel (world : World) (v : Value) : Value :=
  match world.label? v .module with
  | some m => if isGiven m then m else .str "__main__"
  | none => .str "__main__"

/-- The class that a name inside a value leads to. A class gives what it holds as a static method as
the callable behind that. -/
def classAt? (world : World) (v : Value) (name : String) : Option Class :=
  match world.rawGet? v name with
  | some u => asClass? (if (asClass? v).isSome && world.isStatic u then world.unwrap u else u)
  | none => none

/-- The classes that a path of names leads through, the outermost first. -/
def classesAlong (world : World) : Value → List String → Option (List Class)
  | _, [] => some []
  | v, name :: rest =>
    match world.classAt? v name with
    | some c => (classesAlong world (.type (.cls c)) rest).map (c :: ·)
    | none => none

/-- The value of a registered module. -/
def registeredModule? (world : World) (name : Value) : Option Value :=
  match name with
  | .str s => (world.registered.lookup s).map fun ref => .object ref [.object]
  | _ => none

/-- The names of a dotted name. -/
def components (name : String) : List String :=
  (split [] name.toList).map String.ofList
where
  /-- The parts of a text between dots; the first argument is the part being read, backwards. -/
  split : List Char → List Char → List (List Char)
    | part, [] => [part.reverse]
    | part, c :: cs => if c = '.' then part.reverse :: split [] cs else split (c :: part) cs

/-- The classes around a callable, the innermost first, as far as its path can be followed. -/
def enclosing (world : World) (module : Option Value) (path : List String)
    (owner : Option Class) : List Class :=
  match module with
  | none => owner.toList
  | some module =>
    if path.isEmpty || path.contains "<locals>" then owner.toList
    else
      match world.classesAlong module path, owner with
      | none, owner => owner.toList
      | some cs, none => cs.reverse
      | some cs, some c => c :: cs.reverse.drop 1

/-- The qualified name of a value. -/
def qualnameText (world : World) (v : Value) : String :=
  ((world.label? v .qualname).map nameText).getD ""

/-- The scope that a class is. -/
def classScope (world : World) (c : Class) : Scope :=
  ⟨world.dottedName c, .cls, world.configAmong (world.ownMembers c)⟩

/-- The members of a module value. -/
def membersOf (world : World) (module : Value) : Members :=
  match world.behind? module with
  | some (.module _ members) => members
  | _ => []

/-- The scopes around a callable, the innermost first and the module last. -/
def scopeChain (world : World) (target : Value) (owner : Option Class) :
    Except Fault (List Scope) := do
  let moduleName := world.moduleLabel ((owner.map fun c => Value.type (.cls c)).getD target)
  let module := world.registeredModule? moduleName
  let classes := match owner with
    | some c => world.enclosing module (components (world.qualnameText (.type (.cls c)))) owner
    | none => world.enclosing module (components (world.qualnameText target)).dropLast none
  let name ← (Checked.within (.field "name") (Check.string moduleName)).get
  return classes.map world.classScope ++
    [⟨name, .module, module.bind fun m => world.configAmong (world.membersOf m)⟩]

/-! ## Metadata -/

/-- The described parameters, numbered in order. -/
def describeParams (hints : List (String × TypeHint)) (params : List Param) : List Parameter :=
  params.zipIdx.map fun (p, i) =>
    let (hint, dontLog) := TypeHint.unmark ((hints.lookup p.name).getD (p.hint.getD .any))
    ⟨i, p.name, hint, dontLog⟩

/-- The parameters of a callable without the receiver. -/
def withoutReceiver (world : World) (func : Value) (owner : Option Class) (params : List Param) :
    List Param :=
  if owner.isSome && !world.isStatic func then params.drop 1 else params

/-- The name of a callable: its own, else that of its class. -/
def callableName (world : World) (target : Value) : String :=
  match world.label? target .name with
  | some v => nameText v
  | none => world.naming.kindOf target

/-- The metadata of a callable whose signature and annotations are known. -/
def metadata (world : World) (func : Value) (config : Config) (owner : Option Class)
    (signature : Signature) (hints : List (String × TypeHint)) : Except Fault Metadata := do
  let target := world.unwrap func
  let scopes ← world.scopeChain target owner
  return {
    name := world.callableName target
    parameters := describeParams hints (world.withoutReceiver func owner signature.params)
    scopes := scopes
    config := config
    returns := (TypeHint.unmark
      ((hints.lookup "return").getD (signature.returns.getD .any))).1 }

/-- The part of the library that reports on descriptions. -/
def reporter : String :=
  "discovery"

/-- Reports that the annotations of a callable cannot be resolved. -/
def reportUnresolved (world : World) (target : Value) (f : Fault) : Logging Unit := do
  let display ← Action.ofExcept (world.shown target)
  let name := (world.label? target .qualname).getD (.str display)
  Logger.reportHandled world.naming reporter "debug" "annotations_unresolved"
    [("callable", name), ("error", .str f.message)] (.fault f)

/-- The resolved annotations of a callable, or none if they cannot be resolved. -/
def hintsOrReport (world : World) (target : Value) : Logging (List (String × TypeHint)) :=
  match world.typeHints world.depth target with
  | .ok hints => pure hints
  | .error f => do
    world.reportUnresolved target f
    return []

/-- The metadata of a callable. -/
def describe (world : World) (func : Value) (config : Config) (owner : Option Class) :
    Logging Metadata := do
  let target := world.unwrap func
  if !world.isCallable target then
    Action.ofExcept do throw (.notCallable (← world.shown func))
  else
    let signature ← Action.ofExcept (world.signatureOf target)
    let hints ← world.hintsOrReport target
    Action.ofExcept (world.metadata func config owner signature hints)

end World

end CallLog
