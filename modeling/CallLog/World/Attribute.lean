import CallLog.Description

/-!
# Attributes

What a program gets when it asks a value for an attribute. A function that is found in a class is
bound to the instance it is asked for through; static methods are not bound, class methods are bound
to the class, and a property is computed by a call. An object that logs calls is bound as what it
was put around would be.
-/

namespace CallLog

/-- What an attribute gives. -/
inductive Access where
  | value (v : Value)
  /-- a function bound to a receiver -/
  | bound (func receiver : Value)
  /-- the result of a call of a function with a receiver -/
  | computed (getter receiver : Value)

namespace World

/-- A function as an attribute: bound to the receiver, if there is one. -/
def receive (func : Value) : Option Value → Access
  | some receiver => .bound func receiver
  | none => .value func

/-- Whether a value decides itself how it is bound. -/
def isBinding (world : World) (v : Value) : Bool :=
  match world.behind? v with
  | some (.function _) | some (.decoration _) | some (.logged _) | some (.staticMethod ..)
  | some (.classMethod ..) | some (.property _) | some (.method ..) => true
  | _ => false

/-- What a member of a class gives, asked for through a receiver or through the class; the number
bounds how deep class methods are nested. -/
def accessWithin (world : World) : Nat → Value → Option Value → Class → Access
  | 0, member, _, _ => .value member
  | fuel + 1, member, receiver, c =>
    match world.behind? member with
    | some (.function _) | some (.decoration _) => receive member receiver
    | some (.logged l) =>
      if world.isStatic l.func then .value member
      else if world.isClassMethod l.func then .bound member (.type (.cls c))
      else receive member receiver
    | some (.staticMethod func _) => .value func
    | some (.classMethod func _) =>
      let owner := Value.type (.cls c)
      if world.isBinding func then accessWithin world fuel func (some owner) c
      else .bound func owner
    | some (.property getter) =>
      match receiver with
      | some receiver => .computed getter receiver
      | none => .value member
    | _ => .value member

/-- What a member of a class gives, asked for through a receiver or through the class. -/
def access (world : World) (member : Value) (receiver : Option Value) (c : Class) : Access :=
  world.accessWithin world.depth member receiver c

/-- The label that an attribute is. -/
def labelNamed? : String → Option Label
  | "__name__" => some .name
  | "__qualname__" => some .qualname
  | "__module__" => some .module
  | _ => none

/-- What an attribute gives that says how a value is called. -/
def labelAccess? (world : World) (v : Value) (name : String) : Option Access :=
  (labelNamed? name).bind fun label => (world.label? v label).map .value

/-- The attributes that an instance has itself. -/
def instanceMembers (world : World) (v : Value) : Members :=
  match world.behind? v with
  | some (.instance _ members) => members
  | _ => []

/-- What an attribute of an instance gives: a property goes before the instance's own attributes,
and these before what its class holds. -/
def instanceAccess? (world : World) (v : Value) (c : Class) (name : String) : Option Access :=
  match world.classGet? c name, (world.instanceMembers v).get? name with
  | some member, own =>
    match world.behind? member, own with
    | some (.property _), _ | _, none => some (world.access member (some v) c)
    | _, some own => some (.value own)
  | none, some own => some (.value own)
  | none, none => none

/-- What an attribute of something like a function gives; the number bounds how deep methods are
nested. -/
def functionAccess? (world : World) : Nat → Value → String → Option Access
  | 0, _, _ => none
  | fuel + 1, v, name =>
    match world.behind? v, name with
    | some (.logged l), "__wrapped__" => some (.value l.wrapped)
    | some (.staticMethod func _), "__func__" | some (.staticMethod func _), "__wrapped__"
    | some (.classMethod func _), "__func__" | some (.classMethod func _), "__wrapped__"
    | some (.method func _), "__func__" | some (.partly func _), "func" => some (.value func)
    | some (.method _ receiver), "__self__" => some (.value receiver)
    | some (.method func _), name => functionAccess? world fuel func name
    | _, _ => none

/-- What an attribute of a value gives, if the value has it. -/
def access? (world : World) (v : Value) (name : String) : Option Access :=
  let found := match asClass? v, world.instanceClass? v, world.behind? v, v with
    | some c, _, _, _ => (world.classGet? c name).map fun member => world.access member none c
    | none, some c, _, v => world.instanceAccess? v c name
    | none, none, some (.module ..), .object ref _ => (world.moduleGet? ref name).map .value
    | none, none, _, .specimen _ field => if name = "v" then some (.value field) else none
    | none, none, _, v => world.functionAccess? world.depth v name
  found.orElse fun _ => world.labelAccess? v name

end World

end CallLog
