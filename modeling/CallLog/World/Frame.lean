import CallLog.World.Names

/-!
# Frames

What the names in the body of a function stand for while it runs: its parameters go before the names
of the module.
-/

namespace CallLog

/-- The names that the body of a function sees. -/
structure Frame where
  /-- the module whose names the function sees -/
  home : Nat
  isAsync : Bool := false
  bindings : List (Param × Value)

namespace Frame

/-- The frame of a call of a function. -/
def ofCall (f : Function) (values : List Value) : Frame :=
  ⟨f.home, f.isAsync, f.signature.params.zip values⟩

/-- The value of a name. -/
def get (frame : Frame) (world : World) (name : String) : Except Fault Value :=
  match frame.bindings.find? fun b => b.1.name = name with
  | some (_, v) => .ok v
  | none =>
    match world.nameGet? frame.home name with
    | some v => .ok v
    | none => .error (.unknownName name)

/-- The values of all parameters but the receiver: first those that take one argument, then those
that take what is left. -/
def arguments (frame : Frame) : List Value :=
  let given := frame.bindings.filter fun (p, _) => p.name ≠ "self" && p.name ≠ "cls"
  let ofKinds (kinds : List ParamKind) :=
    (given.filter fun (p, _) => kinds.contains p.kind).map Prod.snd
  ofKinds [.positional, .either] ++ ofKinds [.named] ++ ofKinds [.rest] ++ ofKinds [.others]

end Frame

end CallLog
