import CallLog.Format
import CallLog.Value.Key

/-!
# Operations on values

What the operators of expressions make of values: truth, comparison, arithmetic on integers, and the
joining, repeating and indexing of texts, lists and tuples. What an operator does not know it
refuses; of a number with a fraction only its class is known.
-/

namespace CallLog

namespace Value

/-- A number of which only the class is known. -/
def fraction : Value :=
  fresh (.known .float)

/-- Whether a value is a number of which only the class is known. -/
def isFraction : Value → Bool
  | fresh (.known k) => k = .float || k = .complex
  | _ => false

/-- The refusal of an operator. -/
def refusal : Fault :=
  .unsupported "the operator does not know the values"

/-- Whether a value holds as a condition. -/
def isTrue : Value → Bool
  | none => false
  | bool b => b
  | int i => i ≠ 0
  | str s => !s.isEmpty
  | bytes bs => !bs.isEmpty
  | list xs | tuple xs => !xs.isEmpty
  | dict es => !es.isEmpty
  | _ => true

/-! ## Comparison -/

mutual

/-- Whether two values are equal. -/
def isEqual : Value → Value → Bool
  | list xs, list ys | tuple xs, tuple ys => areEqual xs ys
  | dict es, dict fs => es.length = fs.length && entriesIn es fs
  | specimen k v, specimen l w => k = l && isEqual v w
  | v, w => v.isSameKey w

/-- Whether the values of two lists are equal one by one. -/
def areEqual : List Value → List Value → Bool
  | [], [] => true
  | v :: vs, w :: ws => isEqual v w && areEqual vs ws
  | _, _ => false

/-- Whether entries are found among others. -/
def entriesIn : List (Value × Value) → List (Value × Value) → Bool
  | [], _ => true
  | (k, v) :: es, fs => (fs.any fun f => isSameKey k f.1 && isEqual v f.2) && entriesIn es fs

end

/-- How two numbers are ordered. -/
def orderOf (i j : Int) : Ordering :=
  if i < j then .lt else if i = j then .eq else .gt

/-- How two lists of numbers are ordered: by the first numbers that differ. -/
def orderOfAll : List Int → List Int → Ordering
  | [], [] => .eq
  | [], _ :: _ => .lt
  | _ :: _, [] => .gt
  | i :: is, j :: js => (orderOf i j).then (orderOfAll is js)

mutual

/-- How two values are ordered, if they are. -/
def order? : Value → Value → Option Ordering
  | str s, str t =>
    let codes (s : String) : List Int := s.toList.map fun c => c.toNat
    some (orderOfAll (codes s) (codes t))
  | bytes bs, bytes cs =>
    some (orderOfAll (bs.map fun b => b.toNat) (cs.map fun b => b.toNat))
  | list xs, list ys | tuple xs, tuple ys => orderAll? xs ys
  | v, w =>
    match v.count?, w.count? with
    | some i, some j => some (orderOf i j)
    | _, _ => Option.none

/-- How two lists of values are ordered, if they are: by the first values that differ. -/
def orderAll? : List Value → List Value → Option Ordering
  | [], [] => some .eq
  | [], _ :: _ => some .lt
  | _ :: _, [] => some .gt
  | v :: vs, w :: ws => if isEqual v w then orderAll? vs ws else order? v w

end

/-- Whether a value is in a container. -/
def isIn (v : Value) : Value → Except Fault Bool
  | list xs | tuple xs => .ok (xs.any (isEqual v))
  | dict es => if v.isHashable then .ok (es.any fun e => e.1.isSameKey v) else .error refusal
  | type a =>
    match a.star? with
    | some b => .ok (isEqual v (type b))
    | Option.none => .error refusal
  | str t =>
    match v with
    | str s => .ok (s.isEmpty || 1 < (t.splitOn s).length)
    | _ => .error refusal
  | _ => .error refusal

/-- Whether a comparison holds. -/
def holds (v : Value) : Comparison → Value → Except Fault Bool
  | .equal, w => .ok (v.isEqual w)
  | .unequal, w => .ok !(v.isEqual w)
  | .same, w => .ok (v.isSameKey w)
  | .notSame, w => .ok !(v.isSameKey w)
  | .isIn, w => v.isIn w
  | .notIn, w => return !(← v.isIn w)
  | .less, w => ordered w (· == .lt)
  | .lessOrEqual, w => ordered w (· != .gt)
  | .greater, w => ordered w (· == .gt)
  | .greaterOrEqual, w => ordered w (· != .lt)
where
  /-- Whether two values are ordered in a way. -/
  ordered (w : Value) (test : Ordering → Bool) : Except Fault Bool :=
    match v.order? w with
    | some o => .ok (test o)
    | Option.none => .error refusal

/-! ## Arithmetic -/

/-- The greatest amount by which a number is shifted, or to which it is raised. -/
def amountLimit : Nat := 100000

/-- A number shifted to the left or to the right. -/
def shift (left : Bool) (i j : Int) : Except Fault Value :=
  if j < 0 then .error refusal
  else if !left then .ok (int (i >>> min j.toNat (i.natAbs.log2 + 1)))
  else if amountLimit < j.toNat then .error .outOfMemory
  else .ok (int (i * Int.pow 2 j.toNat))

/-- The bits that two numbers have in common. A negative number has the bits that the number which
complements it has not. -/
def commonBits : Int → Int → Int
  | .ofNat m, .ofNat n => .ofNat (Nat.land m n)
  | .negSucc m, .negSucc n => .negSucc (Nat.lor m n)
  | .ofNat m, .negSucc n | .negSucc n, .ofNat m =>
    .ofNat (Nat.bitwise (fun a b => a && !b) m n)

/-- The bits in which two numbers differ. -/
def differingBits : Int → Int → Int
  | .ofNat m, .ofNat n | .negSucc m, .negSucc n => .ofNat (Nat.xor m n)
  | .ofNat m, .negSucc n | .negSucc m, .ofNat n => .negSucc (Nat.xor m n)

/-- Two integers with an operator. Quotients are rounded down, and the remainder has the sign of the
divisor. -/
def arithmetic (op : BinaryOperator) (i j : Int) : Except Fault Value :=
  match op with
  | .add => .ok (int (i + j))
  | .subtract => .ok (int (i - j))
  | .multiply => .ok (int (i * j))
  | .divide => if j = 0 then .error refusal else .ok fraction
  | .floorDivide => if j = 0 then .error refusal else .ok (int (Int.fdiv i j))
  | .remainder => if j = 0 then .error refusal else .ok (int (Int.fmod i j))
  | .power =>
    if j < 0 then if i = 0 then .error refusal else .ok fraction
    else if i.natAbs ≤ 1 then .ok (int (Int.pow i (j.toNat % 2 + if j = 0 then 0 else 2)))
    else if amountLimit < j.toNat then .error .outOfMemory
    else .ok (int (Int.pow i j.toNat))
  | .shiftLeft => shift true i j
  | .shiftRight => shift false i j
  | .and => .ok (int (commonBits i j))
  | .or => .ok (int (-1 - commonBits (-1 - i) (-1 - j)))
  | .xor => .ok (int (differingBits i j))
  | .matrixMultiply => .error refusal
/-- The greatest number of items that repeating a container gives. -/
def itemLimit : Nat := 1000000

/-- A list so many times in a row. -/
def repetition {α : Type} (n : Int) (xs : List α) : Except Fault (List α) :=
  if itemLimit < n.toNat * xs.length then .error .outOfMemory
  else .ok (List.replicate n.toNat xs).flatten

/-- A container so many times in a row. -/
def repeated (v : Value) (n : Int) : Except Fault Value :=
  match v with
  | str s => do return str (String.ofList (← repetition n s.toList))
  | bytes bs => do return bytes (← repetition n bs)
  | list xs => do return list (← repetition n xs)
  | tuple xs => do return tuple (← repetition n xs)
  | _ => .error refusal

/-- The operands that a value gives to a format. -/
def operands : Value → List Value
  | tuple xs => xs
  | v => [v]

/-- Two values with an operator that is not a bar between annotations. -/
def binary (naming : Naming) (op : BinaryOperator) (v w : Value) : Except Fault Value :=
  match v, w with
  | bool a, bool b =>
    match op with
    | .and => .ok (bool (a && b))
    | .or => .ok (bool (a || b))
    | .xor => .ok (bool (a ^^ b))
    | op => arithmetic op (if a then 1 else 0) (if b then 1 else 0)
  | v, w =>
    match op, v, v.count?, w, w.count? with
    | op, _, some i, _, some j => arithmetic op i j
    | .add, str s, _, str t, _ => .ok (str (s ++ t))
    | .add, bytes bs, _, bytes cs, _ => .ok (bytes (bs ++ cs))
    | .add, list xs, _, list ys, _ => .ok (list (xs ++ ys))
    | .add, tuple xs, _, tuple ys, _ => .ok (tuple (xs ++ ys))
    | .or, dict es, _, dict fs, _ =>
      .ok (dict (fs.foldl (fun es (k, v) => putEntry k v es) es))
    | .remainder, str s, _, w, _ => do
      return str (String.ofList (← Format.fill naming s.toList (operands w)))
    | .multiply, _, some n, w, Option.none => w.repeated n
    | .multiply, v, Option.none, _, some n => v.repeated n
    | op, v, m, w, n =>
      if (v.isFraction || m.isSome) && (w.isFraction || n.isSome) then withFraction op n
      else .error refusal
where
  /-- Two numbers with an operator, one of which is known by its class only. -/
  withFraction (op : BinaryOperator) (divisor : Option Int) : Except Fault Value :=
    match op with
    | .add | .subtract | .multiply | .power => .ok fraction
    | .divide | .floorDivide | .remainder =>
      if divisor = some 0 then .error refusal else .ok fraction
    | .and | .or | .xor | .shiftLeft | .shiftRight | .matrixMultiply => .error refusal

/-- A value with an operator in front. -/
def unary (op : UnaryOperator) (v : Value) : Except Fault Value :=
  match op, v.count? with
  | .negate, _ => .ok (bool !v.isTrue)
  | .plus, some i => .ok (int i)
  | .minus, some i => .ok (int (-i))
  | .invert, some i => .ok (int (-i - 1))
  | .invert, Option.none => .error refusal
  | _, Option.none => if v.isFraction then .ok v else .error refusal

/-! ## Items -/

/-- The items that a value gives one after the other. -/
def items : Value → Except Fault (List Value)
  | list xs | tuple xs => .ok xs
  | str s => .ok (s.toList.map fun c => str (String.ofList [c]))
  | bytes bs => .ok (bs.map fun b => int b.toNat)
  | dict es => .ok (es.map Prod.fst)
  | type a =>
    match a.star? with
    | some b => .ok [type b]
    | Option.none => .error (.unsupported "the value has no items")
  | _ => .error (.unsupported "the value has no items")

/-- The item at a position; a negative position counts from the end. -/
def itemAt? {α : Type} (xs : List α) (i : Int) : Option α :=
  let j := if i < 0 then i + xs.length else i
  if j < 0 then Option.none else xs[j.toNat]?

/-- An item of a container. -/
def item (v index : Value) : Except Fault Value :=
  match v, index, index.count? with
  | dict es, k, _ =>
    match es.find? fun e => e.1.isSameKey k with
    | some e => .ok e.2
    | Option.none => .error (.missingKey "")
  | list xs, _, some i | tuple xs, _, some i => found (itemAt? xs i)
  | str s, _, some i => found ((itemAt? s.toList i).map fun c => str (String.ofList [c]))
  | bytes bs, _, some i => found ((itemAt? bs i).map fun b => int b.toNat)
  | _, _, _ => .error (.unsupported "the value has no items")
where
  /-- The item that is found. -/
  found : Option Value → Except Fault Value
    | some v => .ok v
    | Option.none => .error .indexOutOfRange

/-- The part of a list between two positions. -/
def between {α : Type} (start stop : Option Int) (xs : List α) : List α :=
  let place (i : Int) : Nat := (if i < 0 then i + xs.length else i).toNat
  let first := (start.map place).getD 0
  (xs.take ((stop.map place).getD xs.length)).drop first

/-- A part of a container. -/
def range (v : Value) (start stop : Option Int) : Except Fault Value :=
  match v with
  | list xs => .ok (list (between start stop xs))
  | tuple xs => .ok (tuple (between start stop xs))
  | str s => .ok (str (String.ofList (between start stop s.toList)))
  | bytes bs => .ok (bytes (between start stop bs))
  | _ => .error (.unsupported "the value has no items")

end Value

end CallLog
