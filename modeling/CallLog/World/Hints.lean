import CallLog.World.Evaluate

/-!
# Resolving annotations

Annotations that are written as text are resolved in the module of the callable, at the moment they
are asked for. The resolution of a signature is all or nothing: one annotation that cannot be
resolved leaves none resolved. A text that leads back to itself stays a reference.
-/

namespace CallLog

namespace World

/-- What a text stands for in a module, as an annotation. -/
def readText (world : World) (home : Nat) (s : String) : Except Fault TypeHint := do
  TypeHint.nested (← world.singleHint (← world.evaluate home s))

/-- The argument of a known class in the form in which texts in it are resolved. -/
def genericItem : TypeHint → Except Fault TypeHint
  | .text s => TypeHint.nested (.text s)
  | a => .ok a

/-- A declared annotation in the form in which texts in it are resolved: `None` is its class. -/
def declaredItem : TypeHint → Except Fault TypeHint
  | .none => .ok .noneType
  | a => genericItem a

mutual

/-- An annotation with the texts in it resolved. The list holds the texts that are being resolved,
the number bounds how deep they are nested. -/
def resolveHint (world : World) (home : Nat) : Nat → List String → TypeHint →
    Except Fault TypeHint
  | 0, _, _ => .error .callDepth
  | fuel + 1, pending, hint =>
    match hint with
    | .reference s =>
      if pending.contains s then .ok hint
      else do resolveHint world home fuel (s :: pending) (← world.readText home s)
    | .union ms => do
      let rs ← resolveAll world home fuel pending ms
      if TypeHint.sameItems rs ms then return hint else TypeHint.unionOf rs
    | .alternatives ms => do
      let rs ← resolveAll world home fuel pending ms
      if TypeHint.sameItems rs ms then return hint else TypeHint.barAll rs
    | .listOf a => do return .listOf (← resolveHint world home fuel pending a)
    | .generic origin as => do
      return .withArguments origin
        (← resolveAll world home fuel pending (← as.mapM genericItem))
    | .typeOf a => do return .typeOf (← resolveHint world home fuel pending a)
    | .annotated a marks => do
      TypeHint.marked (← resolveHint world home fuel pending a) marks
    | a => .ok a

/-- Some annotations with the texts in them resolved. -/
def resolveAll (world : World) (home : Nat) : Nat → List String → List TypeHint →
    Except Fault (List TypeHint)
  | _, _, [] => .ok []
  | 0, _, _ :: _ => .error .callDepth
  | fuel + 1, pending, a :: as => do
    return (← resolveHint world home fuel pending a) :: (← resolveAll world home fuel pending as)

end

/-- How deep texts may be nested in each other. -/
def resolutionDepth : Nat := 400

/-- A declared annotation resolved. -/
def resolveDeclared (world : World) (home : Nat) (declared : TypeHint) : Except Fault TypeHint := do
  resolveHint world home resolutionDepth [] (← declaredItem declared)

/-- The declared parameters in the order in which their annotations are kept. -/
def keptOrder (params : List Param) : List Param :=
  let ofKind (k : ParamKind) := params.filter fun p => p.kind = k
  ofKind .either ++ ofKind .positional ++ ofKind .rest ++ ofKind .named ++ ofKind .others

/-- The declared annotations of a signature by name; the result goes under `return`. -/
def declaredHints (signature : Signature) : List (String × TypeHint) :=
  (keptOrder signature.params).filterMap (fun p => p.hint.map fun a => (p.name, a)) ++
    (signature.returns.map fun a => ("return", a)).toList

/-- The resolved annotations of a function by name. -/
def functionHints (world : World) (f : Function) : Except Fault (List (String × TypeHint)) :=
  (declaredHints f.signature).mapM fun (name, a) => do
    return (name, ← world.resolveDeclared f.home a)

/-- The resolved annotations of a callable by name. A class and a builtin function have none; what
is no function, method or class cannot be asked. -/
def typeHints (world : World) : Nat → Value → Except Fault (List (String × TypeHint))
  | 0, _ => .error .callDepth
  | fuel + 1, v =>
    match v with
    | .type (.cls _) => .ok []
    | v =>
      match world.behind? v with
      | some (.function f) => world.functionHints f
      | some (.logged l) => world.typeHints fuel l.wrapped
      | some (.staticMethod func _) | some (.classMethod func _) | some (.method func _) =>
        world.typeHints fuel func
      | some (.builtin _) | some (.decoration _) | some (.module ..) => .ok []
      | _ => .error (.unsupported "no module, class, method, or function")

end World

end CallLog
