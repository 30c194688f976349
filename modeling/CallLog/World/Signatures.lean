import CallLog.World.Lookup

/-!
# Signatures of callables

The signature of a value that can be called. A wrapper has the signature of what it wraps, a method
that of its function without the receiver, a class that of its initializer without the instance.
-/

namespace CallLog

namespace World

/-- The signature that takes any arguments. -/
def anySignature : Signature :=
  { params := [{ name := "args", kind := .rest }, { name := "kwargs", kind := .others }] }

/-- A signature of one parameter that may be left out. -/
def oneParam (name : String) (kind : ParamKind) (default : Value) : Signature :=
  { params := [{ name := name, kind := kind, default := some default }] }

/-- The signature of a validated record: its fields, by name. -/
def recordSignature (isReceipt : Bool) : Signature :=
  let field (name : String) (hint : TypeHint) (default : Option Value) : Param :=
    ⟨name, .named, some hint, default⟩
  let fields := [field "number" (.ofKnown .str) none, field "total" (.ofKnown .int) (some (.int 0)),
    field "tags" (.ofKnown .tuple) (some (.tuple [])),
    field "parent" (.alternatives [.ofKnown .invoice, .noneType]) (some .none)]
  { params := if isReceipt then fields ++ [field "paid" (.ofKnown .bool) (some (.bool false))]
      else fields
    returns := some .none }

/-- The signature of a known class, if it has one. -/
def knownSignature (k : KnownClass) : Except Fault Signature :=
  match k with
  | .list | .tuple => .ok (oneParam "iterable" .positional (.tuple []))
  | .float => .ok (oneParam "x" .positional (.int 0))
  | .object | .outer | .dontLog => .ok {}
  | .complex => .ok { params := [optional "real" (.int 0), optional "imag" (.int 0)] }
  | .enumerate => .ok { params := [{ name := "iterable" }, optional "start" (.int 0)] }
  | .memoryView => .ok { params := [{ name := "object" }] }
  | .property => .ok { params := ["fget", "fset", "fdel", "doc"].map fun n => optional n .none }
  | .reversed => .ok { params := [{ name := "sequence", kind := .positional }] }
  | .any => .ok anySignature
  | .base | .left | .right | .bottom | .loud | .mute | .inner => .ok { params := [{ name := "v" }] }
  | .invoice => .ok (recordSignature false)
  | .receipt => .ok (recordSignature true)
  | _ => .error (.noSignature k.name)
where
  /-- A parameter that may be left out. -/
  optional (name : String) (default : Value) : Param :=
    { name := name, default := some default }

/-- The signature of the methods that a class inherits from known classes, if it has one. -/
def inheritedSignature (line : List Class) : Except Fault Signature :=
  match line.findSome? fun c =>
      match c with
      | .known .object => none
      | .known k => some k
      | .made .. => none with
  | some k => knownSignature k
  | none => .ok {}

/-- The signature of a value; the number bounds how deep callables are wrapped. -/
def signatureWithin (world : World) : Nat → Value → Except Fault Signature
  | 0, _ => .error .callDepth
  | fuel + 1, v =>
    match v with
    | .type (.cls (.known k)) => knownSignature k
    | .type (.cls c) =>
      match world.classGet? c "__init__" with
      | some initializer => do (← signatureWithin world fuel initializer).bound
      | none => inheritedSignature (world.lineOf c)
    | .type a =>
      if world.isCallable (.type a) then .ok anySignature
      else .error (.unsupported "the value is not a callable object")
    | v =>
      match world.behind? v with
      | some (.function f) => .ok f.signature
      | some (.logged l) => signatureWithin world fuel l.wrapped
      | some (.staticMethod func _) => signatureWithin world fuel func
      | some (.method func _) => do (← signatureWithin world fuel func).bound
      | some (.partly func given) => do (← signatureWithin world fuel func).partly given.length
      | some (.builtin _) => .ok { params := [{ name := "obj", kind := .positional }] }
      | some (.decoration _) => .ok { params := [{ name := "target" }] }
      | _ =>
        match (world.instanceClass? v).bind fun c => world.classGet? c "__call__" with
        | some call => do (← signatureWithin world fuel call).bound
        | none => .error (.unsupported "the value is not a callable object")

/-- The signature of a value. -/
def signatureOf (world : World) (v : Value) : Except Fault Signature :=
  world.signatureWithin world.depth v

/-- Whether calling a value makes a coroutine. -/
def isCoroutineWithin (world : World) : Nat → Value → Bool
  | 0, _ => false
  | fuel + 1, v =>
    match world.behind? v with
    | some (.function f) => f.isAsync
    | some (.method func _) | some (.partly func _) => isCoroutineWithin world fuel func
    | _ => false

/-- Whether calling a value makes a coroutine. A logged function does not say so. -/
def isCoroutine (world : World) (v : Value) : Bool :=
  world.isCoroutineWithin world.depth v

end World

end CallLog
