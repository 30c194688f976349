import CallLog.TypeHint

/-!
# Values

What a program passes around: the arguments and results that are logged, and the exceptions that it
raises. Scalars, containers, exceptions and records are kept by content. Everything that has an
identity of its own is kept as a reference to an object of the store, see `CallLog.Object`.

`Value.line` is the line of ancestors of a value's class as far as converters can be registered for
it.
-/

namespace CallLog

/-- A validated record: an invoice, or a receipt, which is an invoice that may be `paid`. -/
inductive Invoice where
  | mk (number : String) (total : Int) (tags : List String) (parent : Option Invoice)
      (paid : Option Bool)
  deriving Repr, Inhabited

/-- The class of a validated record. -/
def Invoice.kind : Invoice → KnownClass
  | mk _ _ _ _ none => .invoice
  | mk _ _ _ _ (some _) => .receipt

/-- A value of a program. -/
inductive Value where
  | none
  | bool (b : Bool)
  | int (i : Int)
  | str (s : String)
  | bytes (bs : List UInt8)
  | list (xs : List Value)
  | tuple (xs : List Value)
  /-- entries in the order in which their keys came -/
  | dict (entries : List (Value × Value))
  /-- an exception that a program made, with its arguments -/
  | error (c : Class) (args : List Value)
  /-- an exception that a failure is seen as -/
  | fault (f : Fault)
  /-- a value of a plain known class with one field -/
  | specimen (k : KnownClass) (field : Value)
  | model (m : Invoice)
  /-- a class, or another construct that an annotation can be -/
  | type (a : TypeHint)
  /-- a value of which only the class is known -/
  | fresh (c : Class)
  /-- an object with an identity, and the known classes that its class derives from -/
  | object (ref : Nat) (line : List KnownClass)
  deriving Inhabited

namespace Value

/-- The value that an annotation is when a program holds it. -/
def ofHint : TypeHint → Value
  | .none => none
  | .text s => str s
  | a => type a

/-- The line of ancestors of the class of a class or of another construct. -/
def typeLine : TypeHint → List KnownClass
  | .cls _ => [.type, .object]
  | _ => [.object]

/-- The line of ancestors of the class of a value. -/
def line : Value → List KnownClass
  | none => KnownClass.noneType.line
  | bool _ => KnownClass.bool.line
  | int _ => KnownClass.int.line
  | str _ => KnownClass.str.line
  | bytes _ => KnownClass.bytes.line
  | list _ => KnownClass.list.line
  | tuple _ => KnownClass.tuple.line
  | dict _ => KnownClass.dict.line
  | error c _ => c.ancestors
  | fault f => f.kind.line
  | specimen k _ => k.line
  | model m => m.kind.line
  | type a => typeLine a
  | fresh c => c.ancestors
  | object _ ks => ks

/-- Whether a value can be raised. -/
def isRaisable : Value → Bool
  | error .. | fault _ => true
  | _ => false

/-- The number that a value counts as. -/
def count? : Value → Option Int
  | int i => some i
  | bool b => some (if b then 1 else 0)
  | _ => Option.none

/-- Whether a value is `None`. -/
def isNone : Value → Bool
  | none => true
  | _ => false

end Value

/-- How the objects and classes of the store are called. -/
structure Naming where
  /-- the display of an object -/
  display : Nat → String
  /-- the name of the class of an object -/
  kindName : Nat → String
  /-- the qualified name of the class of an object -/
  kindQualname : Nat → String
  /-- the name of the class that an object is -/
  className : Nat → String
  /-- the qualified name of the class that an object is -/
  classQualname : Nat → String
  /-- the module and the qualified name of the class that an object is -/
  classPath : Nat → String

/-- The naming of an empty store. -/
def Naming.empty : Naming :=
  ⟨fun _ => "", fun _ => "", fun _ => "", fun _ => "", fun _ => "", fun _ => ""⟩

namespace Naming

/-- The name of a class. -/
def nameOf (naming : Naming) : Class → String
  | .known k => k.name
  | .made ref _ => naming.className ref

/-- The qualified name of a class. -/
def qualnameOf (naming : Naming) : Class → String
  | .known k => k.qualname
  | .made ref _ => naming.classQualname ref

/-- The name of the class of a class or of another construct. -/
def typeKind : TypeHint → String
  | .cls (.known .any) => "_AnyMeta"
  | .cls (.known .baseModel) | .cls (.known .invoice) | .cls (.known .receipt) => "ModelMetaclass"
  | .cls _ => "type"
  | .none => "NoneType"
  | .noReturn | .never | .form .union | .form .optional | .form .unpack => "_SpecialForm"
  | .typeVar => "TypeVar"
  | .union _ => "_UnionGenericAlias"
  | .alternatives _ => "UnionType"
  | .listOf _ | .typeOf _ => "_GenericAlias"
  | .generic .unpack _ => "_UnpackGenericAlias"
  | .generic _ _ => "GenericAlias"
  | .annotated .. => "_AnnotatedAlias"
  | .text _ => "str"
  | .reference _ => "ForwardRef"
  | .form .annotated | .kind _ => "type"
  | .form _ => "_SpecialGenericAlias"
  | .data .. => "object"

/-- The name of the class of a value. -/
def kindOf (naming : Naming) : Value → String
  | .none => "NoneType"
  | .bool _ => "bool"
  | .int _ => "int"
  | .str _ => "str"
  | .bytes _ => "bytes"
  | .list _ => "list"
  | .tuple _ => "tuple"
  | .dict _ => "dict"
  | .error c _ => naming.nameOf c
  | .fault f => f.kind.name
  | .specimen k _ => k.name
  | .model m => m.kind.name
  | .type a => typeKind a
  | .fresh c => naming.nameOf c
  | .object ref _ => naming.kindName ref

/-- The name of the class of a value as failures give it: some classes are named with their
module. -/
def fullKindOf (naming : Naming) (v : Value) : String :=
  match v, naming.kindOf v with
  | .type _, "UnionType" => "types.UnionType"
  | .type _, "GenericAlias" => "types.GenericAlias"
  | .object .., "partial" => "functools.partial"
  | _, name => name

/-- The qualified name of the class of a value. -/
def qualifiedKindOf (naming : Naming) : Value → String
  | .error c _ | .fresh c => naming.qualnameOf c
  | .specimen k _ => k.qualname
  | .object ref _ => naming.kindQualname ref
  | v => naming.kindOf v

end Naming

end CallLog
