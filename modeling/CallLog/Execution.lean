import CallLog.Evaluation
import CallLog.World.Linearization

/-!
# Executing programs

Items are executed one after the other, in a module, in the body of a class or inside a function.
Each makes its name stand for something. The decorations of a function or class are evaluated before
it is made, the outermost first, and applied to it afterwards, the innermost first.

The names that an item sees are those of the place where it stands, of the functions around it, and
of the module; the body of a class is not seen from inside its functions and classes.
-/

namespace CallLog

/-- Where items are executed. -/
structure Place where
  home : Nat
  /-- the names that items define -/
  here : Nat
  /-- whether the place is inside a function -/
  isInside : Bool := false
  /-- the names of the functions around, the innermost first -/
  around : List Nat := []
  /-- what the qualified names of items begin with -/
  label : String := ""

namespace Place

/-- The module as a place. -/
def ofModule (ref : Nat) : Place :=
  { home := ref, here := ref }

/-- The functions whose names are seen from inside an item. -/
def seen (place : Place) : List Nat :=
  if place.isInside then place.here :: place.around else place.around

/-- The body of a class as a place. -/
def ofClass (place : Place) (space : Nat) (name : String) : Place :=
  { home := place.home, here := space, around := place.seen, label := place.label ++ name ++ "." }

/-- The inside of a function as a place. -/
def ofFunction (place : Place) (space : Nat) (name : String) : Place :=
  { home := place.home, here := space, isInside := true, around := place.seen
    label := place.label ++ name ++ ".<locals>." }

/-- What a name stands for. -/
def value? (world : World) (place : Place) (name : String) : Option Value :=
  let named := (place.here :: place.around ++ [place.home]).findSome? fun ref =>
    (world.moduleMembers ref).get? name
  named.orElse fun _ => world.outerGet? place.home name

end Place

namespace Execution

open Evaluation (respond walk follow)

/-! ## Names -/

/-- Changes the names of a module, of a class body or of the inside of a function. -/
def changeNames (ref : Nat) (f : Members → Members) : Run Unit := do
  match (← Run.world).object? ref with
  | some (.module name members) => Run.change (World.put ref (.module name (f members)))
  | some (.space members) => Run.change (World.put ref (.space (f members)))
  | _ => pure ()

/-- Makes a name stand for a value. -/
def define (place : Place) (name : String) (v : Value) : Run Unit :=
  changeNames place.here (Members.set · name v)

/-- What a path stands for. -/
def evaluate (place : Place) (path : Path) : Run Value := do
  match path.inside, path.steps with
  | none, name :: rest =>
    match place.value? (← Run.world) name with
    | some v => (walk respond v rest).run
    | none => Action.fault (.unknownName name)
  | _, _ => (follow respond place.home path).run

/-- The name of the module as a value. -/
def moduleName (place : Place) : Run Value := do
  match (← Run.world).object? place.home with
  | some (.module name _) => return .str name
  | _ => return .none

/-! ## Attributes -/

/-- The labels with one of them replaced. -/
def putLabel (labels : Labels) (v : Value) : Label → Labels
  | .name => { labels with name := some v }
  | .qualname => { labels with qualname := some v }
  | .module => { labels with module := some v }

/-- A function with a label replaced. Its names have to be texts. -/
def relabelFunction (f : Function) : Label → Value → Except Fault Function
  | .name, .str s => .ok { f with name := s }
  | .qualname, .str s => .ok { f with qualname := s }
  | .module, v => .ok { f with module := v }
  | _, _ => .error (.unsupported "the name of a function is a text")

/-- A class with a label replaced. Its names have to be texts. -/
def relabelClass (c : ClassObject) : Label → Value → Except Fault ClassObject
  | .name, .str s => .ok { c with name := s }
  | .qualname, .str s => .ok { c with qualname := s }
  | .module, v => .ok { c with module := v }
  | _, _ => .error (.unsupported "the name of a class is a text")

/-- An object with an attribute set. -/
def withAttribute (object : Object) (name : String) (v : Value) : Except Fault Object :=
  match object, World.labelNamed? name with
  | .function f, some label => Object.function <$> relabelFunction f label v
  | .cls c, some label => Object.cls <$> relabelClass c label v
  | .logged l, some label => .ok (.logged { l with labels := putLabel l.labels v label })
  | .staticMethod func labels, some label => .ok (.staticMethod func (putLabel labels v label))
  | .classMethod func labels, some label => .ok (.classMethod func (putLabel labels v label))
  | .module n members, _ => .ok (.module n (members.set name v))
  | .instance c members, _ => .ok (.instance c (members.set name v))
  | .cls c, none => .ok (.cls { c with members := c.members.set name v })
  | .function _, none | .logged _, none | .staticMethod .., none | .classMethod .., none
  | .partly .., _ | .decoration _, _ => .ok object
  | _, _ => .error (.noMember "the object" name)

/-- Sets an attribute of a value. -/
def setAttribute (v : Value) (name : String) (given : Value) : Run Unit := do
  match v with
  | .object ref _ | .type (.cls (.made ref _)) =>
    match (← Run.world).object? ref with
    | some object =>
      Run.change (World.put ref (← Action.ofExcept (withAttribute object name given)))
    | none => pure ()
  | .type (.cls (.known k)) =>
    if World.isOpen k then pure ()
    else Action.fault (.unsupported "the attributes of the class cannot be set")
  | v => do Action.fault (.noMember ((← Run.naming).kindOf v) name)

/-! ## Decorations -/

/-- What a decoration does to what it decorates. -/
abbrev Decorator := Value → Run Value

/-- What the arguments of a decoration name as the logger. -/
def loggerOf (place : Place) : LoggerSource → Run Value
  | .value v => pure v
  | .module => pure (.object place.home [.object])
  | .path path => evaluate place path

/-- Evaluates a decoration. -/
def prepare (place : Place) : Decoration → Run Decorator
  | .bare => pure fun v => Run.decoration v (.member .derived) .none none none
  | .static => pure fun v => do Run.make (.staticMethod v ((← Run.world).labelsOf v))
  | .cls => pure fun v => do Run.make (.classMethod v ((← Run.world).labelsOf v))
  | .set attributes => pure fun v => do
    attributes.forM fun (name, given) => setAttribute v name given
    return v
  | .logged options => do
    let logger ← loggerOf place options.logger
    let decoration ←
      Run.decoration options.message options.level logger options.converters options.providers
    return fun v => (respond (.call decoration ⟨[v], []⟩)).run

/-- Applies decorations, the last one first. -/
def applyAll (decorators : List Decorator) (v : Value) : Run Value :=
  decorators.foldrM (fun decorator v => decorator v) v

/-! ## Functions and classes -/

/-- A parameter whose default, if it is a list, is one that can be changed. -/
def shareDefault (p : Param) : Run Param := do
  match p.default with
  | some (.list xs) => return { p with default := some (← Run.make (.items xs)) }
  | _ => return p

/-- Makes a function. -/
def makeFunction (place : Place) (name : String) (params : List Param)
    (returns : Option TypeHint) (isAsync : Bool) (deed : Deed) : Run Value := do
  Run.make (.function {
    name := name
    qualname := place.label ++ name
    module := ← moduleName place
    signature := ⟨← params.mapM shareDefault, returns⟩
    isAsync := isAsync
    deed := deed
    home := place.home })

/-- Executes a function. -/
def executeFunction (place : Place) (f : FunctionText) : Run Unit := do
  let decorators ← f.decorations.mapM (prepare place)
  let function ← makeFunction place f.name f.params f.returns f.isAsync f.deed
  define place f.name (← applyAll decorators function)

/-- The configuration that a module or class holds. -/
def configValue : ConfigSource → Run Value
  | .entries es => do Run.make (.config (← Action.ofExcept (Check.config (.dict es)).get))
  | .raw v => pure v

/-- The members that a configuration gives a module or class. -/
def configMembers : Option ConfigSource → Run Members
  | some source => do return [("__logged__", ← configValue source)]
  | none => pure []

/-- The class that a base is. -/
def baseClass (v : Value) : Run Class :=
  match World.asClass? v with
  | some c => pure c
  | none => Action.fault (.unsupported "the base is no class")

/-- The qualified name that the body of a class sets, or the one it has from its place. -/
def classQualname (place : Place) (name : String) (members : Members) : Run String :=
  match members.get? "__qualname__" with
  | some (.str s) => pure s
  | some _ => Action.fault (.unsupported "the name of a class is a text")
  | none => pure (place.label ++ name)

/-- Makes a class and tells its logged members about it. -/
def makeClass (place : Place) (name : String) (bases : List Class) (members : Members) :
    Run Value := do
  let ancestors ← Action.ofExcept ((← Run.world).ancestorsOf bases)
  let known := ancestors.filterMap fun
    | .known k => some k
    | .made .. => none
  let c := Class.made (← Run.world).objects.size known
  let module ← match members.get? "__module__" with
    | some v => pure v
    | none => moduleName place
  let qualname ← classQualname place name members
  let _ ← Run.allocate (.cls ⟨name, qualname, module, c :: ancestors, members⟩)
  members.forM fun (_, member) =>
    match member with
    | .object ref _ => Run.setOwner c ref
    | _ => pure ()
  return .type (.cls c)

/-! ## Items -/

/-- A callable with some arguments given; those of a partial application come first. -/
def makePartly (callee : Value) (given : List Value) : Run Value := do
  let world ← Run.world
  if !world.isCallable callee then
    Action.fault (.unsupported "the value cannot be called")
  else
    match world.behind? callee with
    | some (.partly func first) => Run.make (.partly func (first ++ given))
    | _ => Run.make (.partly callee given)

/-- What an assignment gives a name. -/
def assigned (place : Place) : Assigned → Run Value
  | .value v => pure v
  | .source path => evaluate place path
  | .instance path => do (respond (.call (← evaluate place path) {})).run
  | .partly path given => do makePartly (← evaluate place path) given
  | .decorated decoration path => do
    let decorator ← prepare place decoration
    decorator (← evaluate place path)

/-- Assigns a value to a name or to an attribute. -/
def assign (place : Place) (path : Path) (v : Value) : Run Unit := do
  match path.inside, path.steps.reverse with
  | none, [name] => define place name v
  | some _, [name] =>
    match (← Run.world).start? place.home path with
    | some ref => changeNames ref (Members.set · name v)
    | none => Action.fault (.unknownName name)
  | _, name :: rest => do
    setAttribute (← evaluate place { path with steps := rest.reverse }) name v
  | _, [] => pure ()

/-- Takes a name back. -/
def delete (place : Place) (name : String) : Run Unit := do
  match ((← Run.world).moduleMembers place.here).get? name with
  | some _ => changeNames place.here (Members.erase · name)
  | none => Action.fault (.unknownName name)

mutual

/-- Executes an item. -/
def execute (place : Place) : Item → Run Unit
  | .function f => executeFunction place f
  | .cls name bases config decorations body => do
    let decorators ← decorations.mapM (prepare place)
    let bases ← bases.mapM fun path => do baseClass (← evaluate place path)
    let space ← Run.allocate (.space (← configMembers config))
    executeAll (place.ofClass space name) body
    let members := (← Run.world).moduleMembers space
    let c ← makeClass place name bases members
    define place name (← applyAll decorators c)
  | .inside function body => do
    let space ← Run.allocate (.space [])
    define place function (← makeFunction place function [] none false .rest)
    changeNames place.home
      (Members.set · (World.insideName function) (.object space [.object]))
    executeAll (place.ofFunction space function) body
  | .lambda name params deed => do
    let params := params.map fun name => { name := name : Param }
    define place name (← makeFunction place "<lambda>" params none false deed)
  | .property name deed => do
    let getter ← makeFunction place name [{ name := "self" }] none false deed
    define place name (← Run.make (.property getter))
  | .delete name => delete place name
  | .assign path value => do assign place path (← assigned place value)

/-- Executes items in order. -/
def executeAll (place : Place) : List Item → Run Unit
  | [] => pure ()
  | item :: rest => do
    execute place item
    executeAll place rest

end

/-- Makes a module and executes its items. -/
def load (name : String) (isRegistered : Bool) (config : Option ConfigSource)
    (items : List Item) : Run Nat := do
  let ref ← Run.allocate (.module name (← configMembers config))
  if isRegistered then
    Run.change fun world => { world with registered := (name, ref) :: world.registered }
  executeAll (.ofModule ref) items
  return ref

end Execution

end CallLog
