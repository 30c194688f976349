import CallLog.Value.Operation
import CallLog.World.Lookup
import CallLog.World.Settled

/-!
# Values as annotations

What a value says as an annotation or as a mark, and what the constructs of annotations make of
values: subscripts, bars and the classes of values. Every value can be an annotation, except that a
tuple is none where a construct asks for a single one.
-/

namespace CallLog

namespace World

/-- A value as a program shows it, or the name of its class if it refuses. -/
def shownOrKind (world : World) (v : Value) : String :=
  match v.display world.naming with
  | .ok cs => String.ofList cs
  | .error _ => world.naming.kindOf v

/-- What a value says as an annotation. -/
def hintOf (world : World) (v : Value) : TypeHint :=
  match v with
  | .none => .none
  | .str s => .text s
  | .type a => a
  | v => .data (world.shownOrKind (world.settled v)) (world.label? v .module).isSome

/-- What a value says as an annotation where a single one is asked for. -/
def singleHint (world : World) (v : Value) : Except Fault TypeHint :=
  match v with
  | .tuple _ => .error (.unsupported "a tuple is no type")
  | v => .ok (world.hintOf v)

/-- The class of an instance, as far as the world knows it. -/
def classOf? (world : World) (v : Value) : Option Class :=
  match v with
  | .error c _ | .fresh c => some c
  | .fault f => some (.known f.kind)
  | .specimen k _ => some (.known k)
  | .model m => some (.known m.kind)
  | v =>
    match world.behind? v, v with
    | some (.instance c _), .object .. => some c
    | _, _ => none

/-- What a value says as a mark. -/
def markOf (world : World) (v : Value) : Mark :=
  match v with
  | .type (.cls (.known .dontLog)) => .dontLog
  | .str s => .note s
  | v =>
    if (world.classOf? v).any fun c => c.derivesFrom .dontLog then .dontLogValue
    else .other (world.shownOrKind (world.settled v))

/-! ## Classes of values -/

/-- The known class of an object that is no instance. -/
def objectClass? : Object → Option KnownClass
  | .module .. => some .moduleType
  | .function _ | .decoration _ => some .function
  | .cls _ => some .type
  | .staticMethod .. => some .staticMethod
  | .classMethod .. => some .classMethod
  | .property _ => some .property
  | .method .. => some .method
  | .builtin _ => some .builtinFunction
  | .items _ => some .list
  | .instance .. | .space _ | .partly .. | .logged _ | .config _ | .coroutine .. => none

/-- The known class of a value that is no object. -/
def plainClass? : Value → Option KnownClass
  | .none => some .noneType
  | .bool _ => some .bool
  | .int _ => some .int
  | .str _ => some .str
  | .bytes _ => some .bytes
  | .list _ => some .list
  | .tuple _ => some .tuple
  | .dict _ => some .dict
  | .type (.cls c) =>
    if c.derivesFrom .baseModel || c.derivesFrom .any then none else some .type
  | .type (.form .annotated) | .type (.kind _) => some .type
  | _ => none

/-- The class of a value, as a value. -/
def classValue (world : World) (v : Value) : Value :=
  let known := ((world.behind? v).bind objectClass?).orElse fun _ => plainClass? v
  match world.classOf? v, known with
  | some c, _ => .type (.cls c)
  | none, some k => .type (.ofKnown k)
  | none, none => .type (.kind (world.naming.kindOf v))

/-! ## Constructs -/

/-- The known classes that can be subscripted. -/
def genericClasses : List KnownClass :=
  [.list, .dict, .tuple, .set, .frozenSet, .type, .enumerate, .baseExceptionGroup, .exceptionGroup]

/-- The items that an index holds. -/
def indexItems : Value → List Value
  | .tuple xs => xs
  | v => [v]

/-- A class with arguments. -/
def genericOf (world : World) (c : Class) (index : Value) : Except Fault Value :=
  match c, c.ancestors.find? fun k => genericClasses.contains k with
  | .known k, some l =>
    if k = l then .ok (.ofHint (.generic (.cls k) ((indexItems index).map world.hintOf)))
    else .error (.unsupported "the class takes no arguments")
  | c, some _ => .ok (.type (.data (world.shownOrKind (.type (.cls c)) ++ "[]") true))
  | _, none => .error (.unsupported "the class takes no arguments")

/-- A construct of annotations, or a container, with an index. -/
def subscript (world : World) (head index : Value) : Except Fault Value := do
  match head, indexItems index, index with
  | .type (.form .optional), _, v =>
    return .ofHint (← TypeHint.optionalOf (← world.singleHint v))
  | .type (.form .union), vs, _ =>
    return .ofHint (← TypeHint.unionOf (← vs.mapM world.singleHint))
  | .type (.form .list), [v], _ => return .ofHint (← TypeHint.listOf? (← world.singleHint v))
  | .type (.form .annotated), v :: m :: ms, _ =>
    return .ofHint (← TypeHint.marked (← world.singleHint v) ((m :: ms).map world.markOf))
  | .type (.form .unpack), _, v =>
    return .ofHint (.generic .unpack [← TypeHint.nested (← world.singleHint v)])
  | .type (.cls c), _, v => world.genericOf c v
  | .type _, _, _ => throw (.unsupported "the value has no items")
  | head, _, v => (world.settled head).item v

/-- Two values joined by a bar. -/
def bar (world : World) (v w : Value) : Except Fault Value := do
  let a := world.hintOf v
  let b := world.hintOf w
  if a.isConstruct || b.isConstruct then
    return .ofHint (← TypeHint.bar (← world.singleHint v) (← world.singleHint w))
  else if a.isPlain && b.isPlain then return .ofHint (← TypeHint.bar a b)
  else Value.binary world.naming .or (world.settled v) (world.settled w)

end World

end CallLog
