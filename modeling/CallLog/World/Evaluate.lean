import CallLog.World.Outcome

/-!
# Evaluating expressions

What an expression in an annotation stands for in a module. The expression sees the names of the
anonymous functions and comprehensions around it, the names that were given on the way, the names of
its module, and those that all programs share. A function that is made on the way is known by its
class only, except where it is called at once.

Parts are evaluated from the left, and the first failure is the failure of the whole. Every step
takes fuel, and the length of the text is enough of it.
-/

namespace CallLog

/-- What an expression sees. -/
structure Sight where
  world : World
  /-- the module that the expression stands in -/
  home : Nat
  /-- the names of the anonymous functions and comprehensions around, the newest first -/
  near : Members := []

/-- An evaluation, which may give names to values. -/
abbrev Evaluating := StateT Members (Except Fault)

namespace Sight

/-- What a name stands for. -/
def value (sight : Sight) (name : String) : Evaluating Value := fun given =>
  let found := (sight.near.get? name).orElse fun _ => (given.get? name).orElse fun _ =>
    sight.world.nameGet? sight.home name
  match found with
  | some v => .ok (v, given)
  | none => .error (.unknownName name)

/-- Whether a name stands for a function that all programs share. -/
def isShared (sight : Sight) (name : String) : Evaluating Bool := fun given =>
  let isTaken := (sight.near.get? name).isSome || (given.get? name).isSome ||
    ((sight.world.moduleMembers sight.home).get? name).isSome
  .ok (!isTaken && World.sharedFunctions.contains name, given)

/-- Gives a name to a value. -/
def give (name : String) (v : Value) : Evaluating Unit :=
  modify (Members.set · name v)

/-- The sight with more names. -/
def add (sight : Sight) (names : Members) : Sight :=
  { sight with near := names ++ sight.near }

end Sight

namespace Evaluate

/-- The failure of an evaluation that is not known. -/
def refuse {α : Type} : Evaluating α :=
  throw (.unsupported "the expression is not known in annotations")

/-- A value of which only the class is known. -/
def unknownOf (k : KnownClass) : Value :=
  .fresh (.known k)

/-- The value of a constant. -/
def ofConstant : Constant → Value
  | .nothing => .none
  | .truth b => .bool b
  | .ellipsis => unknownOf .ellipsis
  | .int n => .int n
  | .float => Value.fraction
  | .imaginary => unknownOf .complex
  | .text s => .str s
  | .bytes bs => .bytes bs

/-- The items of a value that is given in place of single items. -/
def itemsOf (sight : Sight) (v : Value) : Evaluating (List Value) :=
  liftM (sight.world.settled v).items

/-! ## Targets -/

mutual

/-- The names that a target of a loop gives to an item. -/
def bindings (sight : Sight) : Expression → Value → Evaluating Members
  | .name n, v => pure [(n, v)]
  | .tuple es, v | .list es, v => do allBindings sight es (← itemsOf sight v)
  | .starred e, v => bindings sight e v
  | _, _ => refuse

/-- The names that some targets give to some items. One target may take what is left. -/
def allBindings (sight : Sight) : List Expression → List Value → Evaluating Members
  | [], [] => pure []
  | .starred e :: es, vs =>
    if es.length ≤ vs.length then do
      let k := vs.length - es.length
      let first ← bindings sight e (.list (vs.take k))
      return (← allBindings sight es (vs.drop k)) ++ first
    else refuse
  | e :: es, v :: vs => do
    let first ← bindings sight e v
    return (← allBindings sight es vs) ++ first
  | _, _ => refuse

end

/-! ## Loops -/

/-- An evaluation of an expression in some sight. -/
abbrev Evaluator := Sight → Expression → Evaluating Value

/-- Whether all conditions hold. -/
def admits (eval : Evaluator) (sight : Sight) : List Expression → Evaluating Bool
  | [] => pure true
  | e :: es => do if (← eval sight e).isTrue then admits eval sight es else return false

/-- What is gathered in the turns of a loop over some items. -/
def turns (eval : Evaluator) (sight : Sight) (target : Expression) (conditions : List Expression)
    (vs : List Value) (body : Sight → Evaluating (List Value)) : Evaluating (List Value) := do
  let gathered ← vs.mapM fun v => do
    let inner := sight.add (← bindings sight target v)
    if ← admits eval inner conditions then body inner else return []
  return gathered.flatten

/-- What is gathered in the turns of some further loops. -/
def loops (eval : Evaluator) (body : Sight → Evaluating Value) :
    List Expression → Sight → Evaluating (List Value)
  | [], sight => do return [← body sight]
  | .clause false target iterable conditions :: clauses, sight => do
    let vs ← itemsOf sight (← eval sight iterable)
    turns eval sight target conditions vs (loops eval body clauses)
  | _, _ => refuse

/-- The value of a comprehension that gathers values. -/
def gathered (kind : ComprehensionKind) (vs : List Value) : Evaluating Value :=
  match kind with
  | .list => return .list vs
  | .set => if vs.all Value.isHashable then return unknownOf .set else refuse
  | .dict =>
    liftM (Value.dictOf (vs.filterMap fun
      | .tuple [k, v] => some (k, v)
      | _ => none))
  | .generator => return unknownOf .generator

/-! ## Expressions -/

/-- The bounds of a range as numbers; `none` stands for a bound that is left out. -/
def bound? (v : Value) : Evaluating (Option Int) :=
  match v, v.count? with
  | .none, _ => return none
  | _, some i => return some i
  | _, none => refuse

/-- The values of the items of a display, in which another container may stand for its items. -/
def itemValues (eval : Evaluator) (sight : Sight) : List Expression → Evaluating (List Value)
  | [] => pure []
  | .starred e :: es => do
    let vs ← itemsOf sight (← eval sight e)
    return vs ++ (← itemValues eval sight es)
  | e :: es => do
    let v ← eval sight e
    return v :: (← itemValues eval sight es)

/-- The entries of a dictionary. -/
def entryValues (eval : Evaluator) (sight : Sight) :
    List Expression → Evaluating (List (Value × Value))
  | .pair k v :: es => do
    let k ← eval sight k
    let v ← eval sight v
    return (k, v) :: (← entryValues eval sight es)
  | .spread e :: es => do
    match sight.world.settled (← eval sight e) with
    | .dict entries => return entries ++ (← entryValues eval sight es)
    | _ => refuse
  | _ => pure []

/-- The arguments of a call. -/
def argumentValues (eval : Evaluator) (sight : Sight) : List Expression → Evaluating Arguments
  | [] => pure {}
  | .named n e :: es => do
    let v ← eval sight e
    let rest ← argumentValues eval sight es
    return { rest with named := (n, v) :: rest.named }
  | .spread _ :: _ => refuse
  | .starred e :: es => do
    let vs ← itemsOf sight (← eval sight e)
    let rest ← argumentValues eval sight es
    return { rest with positional := vs ++ rest.positional }
  | e :: es => do
    let v ← eval sight e
    let rest ← argumentValues eval sight es
    return { rest with positional := v :: rest.positional }

/-- The parameters of an anonymous function with the values of their defaults. -/
def paramsOf : List LambdaParam → List Value → List Param
  | [], _ => []
  | p :: ps, vs =>
    match p.hasDefault, vs with
    | true, v :: vs => ⟨p.name, p.kind, none, some v⟩ :: paramsOf ps vs
    | _, vs => ⟨p.name, p.kind, none, none⟩ :: paramsOf ps vs

/-- The names of an anonymous function that is called with some arguments. -/
def parameterNames (params : List Param) (arguments : Arguments) : Evaluating Members := do
  let values ← liftM (Signature.accept { params := params } arguments)
  return (params.map Param.name).zip values

/-- Whether some comparisons between neighbours hold. -/
def allHold (eval : Evaluator) (sight : Sight) :
    Value → List Comparison → List Expression → Evaluating Bool
  | v, c :: cs, e :: es => do
    let w ← eval sight e
    if ← liftM ((sight.world.settled v).holds c (sight.world.settled w)) then
      allHold eval sight w cs es
    else return false
  | _, _, _ => return true

/-- The first operand that holds, or that does not hold, or else the last one. -/
def firstThat (eval : Evaluator) (sight : Sight) (wanted : Bool) :
    List Expression → Evaluating Value
  | [] => refuse
  | [e] => eval sight e
  | e :: es => do
    let v ← eval sight e
    if (sight.world.settled v).isTrue = wanted then return v
    else firstThat eval sight wanted es

/-- The text of the parts of a text with fields. -/
def joinedText (eval : Evaluator) (sight : Sight) : List Expression → Evaluating String
  | [] => return ""
  | e :: es => do
    match ← eval sight e with
    | .str s => return s ++ (← joinedText eval sight es)
    | _ => refuse

/-- What two values with an operator give. -/
def operation (sight : Sight) (op : BinaryOperator) (v w : Value) : Evaluating Value :=
  if op = .or then liftM (sight.world.bar v w)
  else
    liftM (Value.binary sight.world.naming op (sight.world.settled v) (sight.world.settled w))

/-- A part of a value between two bounds, or a construct with a range as its index. -/
def rangeOf (sight : Sight) (v start stop stride : Value) : Evaluating Value := do
  match v with
  | .type _ => liftM (sight.world.subscript v (unknownOf .slice))
  | v =>
    if stride.isNone || stride.count? = some 1 then
      liftM ((sight.world.settled v).range (← bound? start) (← bound? stop))
    else refuse

/-- What an expression stands for; the number bounds how deep expressions are nested. -/
def evaluate : Nat → Evaluator
  | 0, _, _ => throw .callDepth
  | n + 1, sight, e =>
    let eval := evaluate n
    match e with
    | .constant c => return ofConstant c
    | .name m => sight.value m
    | .member e field => do
      let v ← eval sight e
      liftM (sight.world.attributeOf v field)
    | .subscript e (.slice start stop stride) => do
      let v ← eval sight e
      let start ← eval sight start
      let stop ← eval sight stop
      rangeOf sight v start stop (← eval sight stride)
    | .subscript e index => do
      let v ← eval sight e
      liftM (sight.world.subscript v (← eval sight index))
    | .slice start stop stride => do
      let _ ← [start, stop, stride].mapM (eval sight)
      return unknownOf .slice
    | .tuple es => return .tuple (← itemValues eval sight es)
    | .list es => return .list (← itemValues eval sight es)
    | .set es => do gathered .set (← itemValues eval sight es)
    | .dict es => do liftM (Value.dictOf (← entryValues eval sight es))
    | .pair k v => do
      let k ← eval sight k
      return .tuple [k, ← eval sight v]
    | .call (.lambda params defaults body) given => do
      let values ← defaults.mapM (eval sight)
      let arguments ← argumentValues eval sight given
      eval (sight.add (← parameterNames (paramsOf params values) arguments)) body
    | .call (.name m) given => do
      let isShared ← sight.isShared m
      let callee ← sight.value m
      let arguments ← argumentValues eval sight given
      if isShared then liftM (sight.world.sharedOutcome m arguments)
      else liftM (sight.world.outcome World.outcomeDepth callee arguments)
    | .call callee given => do
      let callee ← eval sight callee
      let arguments ← argumentValues eval sight given
      liftM (sight.world.outcome World.outcomeDepth callee arguments)
    | .unary op e => do
      let v ← eval sight e
      liftM ((sight.world.settled v).unary op)
    | .binary op a b => do
      let v ← eval sight a
      operation sight op v (← eval sight b)
    | .all es => firstThat eval sight false es
    | .any es => firstThat eval sight true es
    | .compare e cs es => do
      let v ← eval sight e
      return .bool (← allHold eval sight v cs es)
    | .conditional test yes no => do
      let v ← eval sight test
      if (sight.world.settled v).isTrue then eval sight yes else eval sight no
    | .lambda _ defaults _ => do
      let _ ← defaults.mapM (eval sight)
      return unknownOf .function
    | .comprehension .generator _ iterable _ _ _ _ => do
      let _ ← itemsOf sight (← eval sight iterable)
      return unknownOf .generator
    | .comprehension kind element iterable false target conditions clauses => do
      let vs ← itemsOf sight (← eval sight iterable)
      let body := loops eval (fun inner => eval inner element) clauses
      gathered kind (← turns eval sight target conditions vs body)
    | .assign m e => do
      let v ← eval sight e
      Sight.give m v
      return v
    | .joined es => return .str (← joinedText eval sight es)
    | .shown e conversion format => do
      let v ← eval sight e
      let format ← joinedText eval sight format
      let cs ← liftM (Format.fieldText sight.world.naming (sight.world.settled v) conversion format)
      return .str (String.ofList cs)
    | _ => refuse

end Evaluate

/-- What the expression of a text stands for in a module. -/
def World.evaluate (world : World) (home : Nat) (s : String) : Except Fault Value :=
  match Expression.read? s with
  | none => .error .notExpression
  | some e => (Evaluate.evaluate (s.length + 8) ⟨world, home, []⟩ e).run' []

end CallLog
