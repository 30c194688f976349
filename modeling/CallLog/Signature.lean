import CallLog.Fault
import CallLog.ParamKind
import CallLog.Value

/-!
# Signatures

The parameters of a callable, in order, and the binding of the arguments of a call to them. A
parameter takes its argument by position, by name or either way; one may take all positional
arguments that are left, and one all named ones. Binding gives one value for each parameter, in the
order of the parameters: the argument, else the default, else nothing more than an empty tuple or
dictionary for the parameters that take what is left.

`length_fill` says that there is exactly one value for each parameter.
-/

namespace CallLog

/-- A parameter of a signature. -/
structure Param where
  name : String
  kind : ParamKind := .either
  /-- what the parameter is declared to be, if it is declared -/
  hint : Option TypeHint := none
  default : Option Value := none

/-- The parameters of a callable and what it is declared to return. -/
structure Signature where
  params : List Param := []
  returns : Option TypeHint := none

/-- The arguments of a call. -/
structure Arguments where
  positional : List Value := []
  named : List (String × Value) := []

namespace Signature

/-- Named arguments without the one of a name. -/
def without (name : String) (named : List (String × Value)) : List (String × Value) :=
  named.filter fun e => e.1 ≠ name

/-- The arguments that are left when some parameters have taken theirs. -/
structure Left where
  positional : List Value
  named : List (String × Value)

/-- What a parameter takes when no positional argument is left: the named argument, else the
default. -/
def takeNamed (p : Param) (named : List (String × Value)) : Option (Value × Left) :=
  match named.lookup p.name with
  | some v => some (v, ⟨[], without p.name named⟩)
  | none => p.default.map fun v => (v, ⟨[], named⟩)

/-- What a parameter takes of the arguments, and what it leaves. A name that belongs to a parameter
that takes its argument by position only is refused if `strict` holds, and left to the others if
not. -/
def take (strict : Bool) (p : Param) (left : Left) : Option (Value × Left) :=
  match p.kind, left.positional with
  | .positional, arg :: args => some (arg, { left with positional := args })
  | .positional, [] =>
    if strict && (left.named.lookup p.name).isSome then none
    else p.default.map fun v => (v, left)
  | .either, arg :: args =>
    if (left.named.lookup p.name).isSome then none
    else some (arg, { left with positional := args })
  | .either, [] => takeNamed p left.named
  | .rest, args => some (.tuple args, { left with positional := [] })
  | .named, [] => takeNamed p left.named
  | .named, _ :: _ => none
  | .others, [] => some (.dict (left.named.map fun (n, v) => (.str n, v)), ⟨[], []⟩)
  | .others, _ :: _ => none

/-- A value for each parameter, if the arguments fit. -/
def fill (strict : Bool) : List Param → Left → Option (List Value)
  | [], left => if left.positional.isEmpty && left.named.isEmpty then some [] else none
  | p :: ps, left =>
    match take strict p left with
    | some (v, left) => (fill strict ps left).map (v :: ·)
    | none => none

/-- The values that the parameters get, if the arguments bind to the signature. -/
def bind (signature : Signature) (arguments : Arguments) : Option (List Value) :=
  fill true signature.params ⟨arguments.positional, arguments.named⟩

/-- The values that the parameters get in a call. -/
def accept (signature : Signature) (arguments : Arguments) : Except Fault (List Value) :=
  match fill false signature.params ⟨arguments.positional, arguments.named⟩ with
  | some values => .ok values
  | none => .error (.unbound "the arguments do not fit the parameters")

/-- The signature of a method that is bound to a receiver. -/
def bound (signature : Signature) : Except Fault Signature :=
  match signature.params with
  | p :: ps =>
    match p.kind with
    | .positional | .either => .ok { signature with params := ps }
    | .rest => .ok signature
    | .named | .others => .error (.noSignature "a method")
  | [] => .error (.noSignature "a method")

/-- The parameters that are left when some arguments are given by position. -/
def dropGiven : List Param → Nat → Option (List Param)
  | ps, 0 => some ps
  | [], _ + 1 => none
  | p :: ps, n + 1 =>
    match p.kind with
    | .positional | .either => dropGiven ps n
    | .rest => some (p :: ps)
    | .named | .others => none

/-- The signature of a callable with some arguments given by position. -/
def partly (signature : Signature) (given : Nat) : Except Fault Signature :=
  match dropGiven signature.params given with
  | some ps => .ok { signature with params := ps }
  | none => .error (.noSignature "a partial application")

/-- There is one value for each parameter. -/
theorem length_fill {strict : Bool} {ps : List Param} {left : Left} {values : List Value}
    (h : fill strict ps left = some values) : values.length = ps.length := by
  induction ps generalizing left values with
  | nil =>
    rw [fill] at h
    split at h
    · obtain rfl := Option.some.inj h
      rfl
    · simp at h
  | cons p ps ih =>
    rw [fill] at h
    split at h
    · obtain ⟨vs, hvs, rfl⟩ := Option.map_eq_some_iff.1 h
      simp [ih hvs]
    · simp at h

end Signature

end CallLog
