import CallLog.Construction
import CallLog.Format.Field
import CallLog.World.Annotation
import CallLog.World.Frame
import CallLog.World.Signatures

/-!
# Outcomes of calls in annotations

What a call or an attribute in an annotation gives. The annotations of a callable are resolved
without changing anything, so that only calls which have no effect are known: an instance of a class
that a program made is a value of which only the class is known, and a function gives what its body
ends with. What logs, waits or changes a value is refused.
-/

namespace CallLog

namespace World

/-- The refusal of a call or of an attribute. -/
def refusal : Fault :=
  .unsupported "the call is not known in annotations"

/-! ## Known classes -/

/-- The number of arguments without which no exception of a class is made. -/
def neededArguments (k : KnownClass) : Option Nat :=
  if k.isSubclass .baseExceptionGroup then some 2
  else if k = .unicodeTranslateError then some 4
  else if k = .unicodeDecodeError || k = .unicodeEncodeError then some 5
  else none

/-- The classes whose empty values are made without arguments, and are known by their class only. -/
def emptyClasses : List KnownClass :=
  [.object, .outer, .dontLog, .float, .complex, .set, .frozenSet, .byteArray, .property, .zip]

/-- The value that a call of a known class gives. -/
def constructKnown (world : World) (k : KnownClass) (arguments : Arguments) :
    Except Fault Value :=
  match k, arguments with
  | .type, ⟨[v], []⟩ => .ok (world.classValue v)
  | .bytes, ⟨[], []⟩ => .ok (.bytes [])
  | k, ⟨vs, []⟩ =>
    if vs.isEmpty && emptyClasses.contains k then .ok (.fresh (.known k))
    else if (neededArguments k).any (· ≠ vs.length) then .error refusal
    else constructed ⟨vs, []⟩
  | _, arguments => constructed arguments
where
  /-- The value that the class makes of the arguments. -/
  constructed (arguments : Arguments) : Except Fault Value :=
    match (Run.construct k arguments world).1 with
    | .ok v => .ok v
    | .error (.fault f) => .error f
    | .error _ => .error refusal

/-- The classes that take any arguments when a class derives from them. -/
def takesAny (c : Class) : Bool :=
  c.ancestors.any fun k => k ≠ .object && k ≠ .base

/-- An instance of a class that a program made, which has no initializer. -/
def uninitialized (c : Class) (arguments : Arguments) : Except Fault Value :=
  if c.isRaisable then
    if arguments.named.isEmpty then .ok (.exception c arguments.positional) else .error refusal
  else if c.derivesFrom .base then
    match Signature.bind { params := [{ name := "v" }] } arguments with
    | some _ => .ok (.fresh c)
    | none => .error refusal
  else if takesAny c || (arguments.positional.isEmpty && arguments.named.isEmpty) then
    .ok (.fresh c)
  else .error refusal

/-! ## Functions -/

/-- A call made from a body. -/
abbrev Caller := Value → Arguments → Except Fault Value

/-- What a function ends with. -/
def deedValue (world : World) (call : Caller) (frame : Frame) : Deed → Except Fault Value
  | .rest => .ok .none
  | .give v => .ok v
  | .argument name => frame.get world name
  | .arguments => .ok (.list frame.arguments)
  | .call path pass => do
    match world.rawPath? frame.home path with
    | some v => call v ⟨← pass.mapM (frame.get world), []⟩
    | none => throw refusal
  | .within _ deed => deedValue world call frame deed
  | .raises _ | .raisesArgument _ | .append .. | .method .. | .countdown .. | .pause _ =>
    .error refusal

/-- What a call gives; the number bounds how deep calls are nested. -/
def outcome (world : World) : Nat → Value → Arguments → Except Fault Value
  | 0, _, _ => .error .callDepth
  | n + 1, v, arguments =>
    let behind (first : List Value) : Arguments :=
      { arguments with positional := first ++ arguments.positional }
    let onInstance (c : Class) : Except Fault Value :=
      match world.classGet? c "__call__" with
      | some member => outcome world n member (behind [v])
      | none => .error refusal
    match v with
    | .type (.cls (.known k)) | .type (.generic (.cls k) _) | .type (.generic (.starred k) _) =>
      world.constructKnown k arguments
      | .type (.cls c) =>
      match world.classGet? c "__init__" with
      | none => uninitialized c arguments
      | some initializer => do
        let made := if c.isRaisable then .error c arguments.positional else .fresh c
        let result ← outcome world n initializer (behind [made])
        if result.isNone then return made else throw refusal
    | .type _ => .error refusal
    | .fresh c | .error c _ => onInstance c
    | v =>
      match world.behind? v with
      | some (.function f) => do
        let values ← f.signature.accept arguments
        if f.isAsync then throw refusal
        else world.deedValue (outcome world n) (.ofCall f values) f.deed
      | some (.staticMethod func _) => outcome world n func arguments
      | some (.partly func given) => outcome world n func (behind given)
      | some (.method func receiver) => outcome world n func (behind [receiver])
      | some (.instance c _) => onInstance c
      | some (.builtin _) =>
        match arguments with
        | ⟨[v], []⟩ =>
          match (world.settled v).length? with
          | some n => .ok (.int n)
          | none => .error (.noLength (world.naming.kindOf v))
        | _ => .error refusal
      | _ => .error refusal

/-- How deep the calls in an annotation may be nested. -/
def outcomeDepth : Nat := 100

/-! ## Attributes -/

/-- The classes and other annotations that a construct was made from. -/
def hintItems? : TypeHint → Option (List TypeHint)
  | .union as | .alternatives as | .generic _ as => some as
  | .listOf a | .typeOf a | .annotated a _ => some [a]
  | _ => none

/-- A text that is no expression. -/
def prose : Value :=
  .str "What it is."

/-- An attribute that a value has by its kind. What is written about a known class is prose. -/
def plainAttribute? (world : World) (v : Value) (name : String) : Option Value :=
  match v, name with
  | v, "__class__" => some (world.classValue v)
  | .specimen _ field, "v" => some field
  | .error _ args, "args" => some (.tuple args)
  | .type (.cls (.made ..)), "__doc__" | .fresh (.made ..), "__doc__" => some .none
  | .type (.cls (.known k)), "__doc__" =>
    if k = .dontLog || sharedClasses.contains k then some prose else none
  | .none, "__doc__" | .bool _, "__doc__" | .int _, "__doc__" | .str _, "__doc__"
  | .list _, "__doc__" | .tuple _, "__doc__" | .dict _, "__doc__" => some prose
  | .type a, "__args__" => (hintItems? a).map fun as => .tuple (as.map .ofHint)
  | .type (.listOf _), "__origin__" | .type (.form .list), "__origin__" =>
    some (.type (.ofKnown .list))
  | .type (.typeOf _), "__origin__" => some (.type (.ofKnown .type))
  | .type (.generic (.cls k) _), "__origin__" | .type (.generic (.starred k) _), "__origin__" =>
    some (.type (.ofKnown k))
  | .type (.generic .unpack _), "__origin__" => some (.type (.form .unpack))
  | .type (.annotated a _), "__origin__" => some (.ofHint a)
  | .type (.union _), "__origin__" => some (.type (.form .union))
  | v, "real" | v, "numerator" => v.count?.map .int
  | v, "imag" => v.count?.map fun _ => .int 0
  | v, "denominator" => v.count?.map fun _ => .int 1
  | v, "__doc__" =>
    match world.behind? v with
    | some (.function _) | some (.instance ..) => some .none
    | _ => none
  | _, _ => none

/-- The name of a construct of annotations. -/
def hintName? (naming : Naming) : TypeHint → Option String
  | .cls c => some (naming.nameOf c)
  | .noReturn => some "NoReturn"
  | .never => some "Never"
  | .form .annotated | .annotated .. => some "Annotated"
  | .form .optional => some "Optional"
  | .form .union => some "Union"
  | .form .list | .listOf _ => some "List"
  | .form .typeOf | .typeOf _ => some "Type"
  | .union [a, b] => some (if a.isNoneType || b.isNoneType then "Optional" else "Union")
  | .union _ => some "Union"
  | .generic (.cls k) _ | .generic (.starred k) _ => some k.name
  | .form .unpack | .generic .unpack _ => some "Unpack"
  | .kind s => some s
  | .none | .typeVar | .alternatives _ | .text _ | .reference _ | .data .. => none

/-- The module of a construct of annotations. -/
def hintModule? (world : World) : TypeHint → Option Value
  | .cls c => world.classLabel c .module
  | .generic (.cls k) _ | .generic (.starred k) _ => some (.str k.module)
  | .annotated a _ => hintModule? world a
  | .alternatives _ => some (.str "types")
  | .none | .text _ | .data .. => none
  | _ => some (.str "typing")

/-- The label of a value that an attribute is. -/
def labelOf? (world : World) (v : Value) (name : String) : Option Value :=
  match v, name with
  | .type .typeVar, "__name__" => some (.str "E")
  | .type (.cls c), "__qualname__" => world.classLabel c .qualname
  | .type a, "__name__" | .type a, "__qualname__" => (hintName? world.naming a).map .str
  | .type a, "__module__" => world.hintModule? a
  | v, "__name__" => world.label? v .name
  | v, "__qualname__" => world.label? v .qualname
  | v, "__module__" => world.label? v .module
  | _, _ => none

/-- An attribute that a value holds itself or through its class. -/
def heldAttribute? (world : World) (v : Value) (name : String) : Option Value :=
  match v with
  | .fresh c => world.classGet? c name
  | v => world.rawGet? v name

/-- An attribute of a value. What a property computes is computed. -/
def attributeOf (world : World) (v : Value) (name : String) : Except Fault Value :=
  match world.heldAttribute? v name with
  | some member =>
    match world.behind? member, World.asClass? v with
    | some (.property getter), none => world.outcome outcomeDepth getter ⟨[v], []⟩
    | some (.staticMethod func _), _ => .ok func
    | _, _ => .ok member
  | none =>
    match (world.plainAttribute? v name).orElse fun _ => world.labelOf? v name with
    | some v => .ok v
    | none => .error (.noMember (world.naming.kindOf v) name)

/-- What a call of a function gives that all programs share. -/
def sharedOutcome (world : World) (name : String) (arguments : Arguments) : Except Fault Value :=
  match name, arguments with
  | "repr", ⟨[v], []⟩ => do return .str (String.ofList (← v.display world.naming))
  | "callable", ⟨[v], []⟩ => .ok (.bool (world.isCallable v))
  | "getattr", ⟨[v, .str n], []⟩ => world.attributeOf v n
  | "getattr", ⟨[v, .str n, w], []⟩ =>
    match world.attributeOf v n with
    | .ok found => .ok found
    | .error (.noMember ..) => .ok w
    | .error f => .error f
  | "hasattr", ⟨[v, .str n], []⟩ =>
    match world.attributeOf v n with
    | .ok _ => .ok (.bool true)
    | .error (.noMember ..) => .ok (.bool false)
    | .error f => .error f
  | "abs", ⟨[v], []⟩ =>
    match v.count? with
    | some i => .ok (.int i.natAbs)
    | none => .error refusal
  | "print", ⟨_, []⟩ => .ok .none
  | _, _ => .error refusal

end World

end CallLog
