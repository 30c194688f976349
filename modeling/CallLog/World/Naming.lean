import CallLog.Object

/-!
# The names of objects

How the objects of a world are displayed and what their classes are called. An object without a
display of its own shows its reference as its address.
-/

namespace CallLog

namespace World

/-- The text of an attribute that is meant to be a name. -/
def nameText : Value → String
  | .none => "None"
  | v =>
    match v.text Naming.empty with
    | .ok cs => String.ofList cs
    | .error _ => ""

/-- The reference of an object as its address. -/
def address (ref : Nat) : String :=
  " at 0x" ++ String.ofList (Text.hex 8 ref)

/-- The name of the class of an object. -/
def kindName (world : World) (ref : Nat) : String :=
  match world.object? ref with
  | some (.instance (.made c _) _) =>
    match world.class? c with
    | some c => c.name
    | none => ""
  | some (.instance (.known k) _) => k.name
  | some object => plainKind object
  | none => ""
where
  /-- The name of the class of an object that is no instance. -/
  plainKind : Object → String
    | .module .. => "module"
    | .space _ => "dict"
    | .function _ => "function"
    | .cls _ => "type"
    | .instance .. => ""
    | .staticMethod .. => "staticmethod"
    | .classMethod .. => "classmethod"
    | .property _ => "property"
    | .partly .. => "partial"
    | .method .. => "method"
    | .logged _ => "LoggedFunction"
    | .config _ => "LoggedConfig"
    | .decoration _ => "function"
    | .builtin _ => "builtin_function_or_method"
    | .items _ => "list"
    | .coroutine .. => "coroutine"

/-- The qualified name of the class of an object. -/
def kindQualname (world : World) (ref : Nat) : String :=
  match world.object? ref with
  | some (.instance (.made c _) _) =>
    match world.class? c with
    | some c => c.qualname
    | none => ""
  | some (.instance (.known k) _) => k.qualname
  | _ => world.kindName ref

/-- The name of the class that an object is. -/
def className (world : World) (ref : Nat) : String :=
  match world.class? ref with
  | some c => c.name
  | none => ""

/-- The qualified name of the class that an object is. -/
def classQualname (world : World) (ref : Nat) : String :=
  match world.class? ref with
  | some c => c.qualname
  | none => ""

/-- The module and the qualified name of the class that an object is. -/
def classPath (world : World) (ref : Nat) : String :=
  match world.class? ref with
  | some c =>
    if nameText c.module = "builtins" then c.qualname else nameText c.module ++ "." ++ c.qualname
  | none => ""

/-- The naming of a world whose objects are displayed by a function. -/
def namingBy (world : World) (display : Nat → String) : Naming where
  display := display
  kindName := world.kindName
  kindQualname := world.kindQualname
  className := world.className
  classQualname := world.classQualname
  classPath := world.classPath

/-- The display of a value inside the display of an object. -/
def inner (world : World) (display : Nat → String) (v : Value) : String :=
  match v.display (world.namingBy display) with
  | .ok cs => String.ofList cs
  | .error _ => ""

/-- The display of an object; the number bounds how deep displays are nested. -/
def display (world : World) : Nat → Nat → String
  | 0, _ => ""
  | fuel + 1, ref =>
    let shown := world.inner (world.display fuel)
    match world.object? ref with
    | some (.module name _) => "<module '" ++ name ++ "'>"
    | some (.function f) => "<function " ++ f.qualname ++ address ref ++ ">"
    | some (.instance .. ) => "<" ++ world.kindName ref ++ ">"
    | some (.staticMethod func _) => "<staticmethod(" ++ shown func ++ ")>"
    | some (.classMethod func _) => "<classmethod(" ++ shown func ++ ")>"
    | some (.partly func given) =>
      "functools.partial(" ++ ", ".intercalate (shown func :: given.map shown) ++ ")"
    | some (.method func receiver) =>
      "<bound method " ++ methodName world func ++ " of " ++ shown receiver ++ ">"
    | some (.logged l) => "<logged " ++ shown l.target ++ ">"
    | some (.builtin name) => "<built-in function " ++ name ++ ">"
    | some (.items xs) => shown (.list xs)
    | some (.coroutine name _) => "<coroutine object " ++ name ++ address ref ++ ">"
    | some (.decoration _) => "<function logged.<locals>.decorator" ++ address ref ++ ">"
    | some (.config _) => "LoggedConfig(" ++ address ref ++ ")"
    | some (.property _) => "<property object" ++ address ref ++ ">"
    | some (.cls c) => "<class '" ++ nameText c.module ++ "." ++ c.qualname ++ "'>"
    | some (.space _) | none => ""
where
  /-- The name of the function behind a method. -/
  methodName (world : World) (func : Value) : String :=
    match world.behind? func with
    | some (.function f) => f.qualname
    | some (.logged l) => ((l.labels.qualname.orElse fun _ => l.labels.name).map nameText).getD "?"
    | _ => "?"

/-- The naming of a world. -/
def naming (world : World) : Naming :=
  world.namingBy (world.display (world.objects.size + 1))

end World

/-- The naming of the world as it is now. -/
def Run.naming : Run Naming := do
  return (← Run.world).naming

end CallLog
