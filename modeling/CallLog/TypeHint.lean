import CallLog.Expression.Scope
import CallLog.Fault

/-!
# Annotations

What a parameter or a result is declared to be. The constructors are the normal forms; annotations
are built by the functions below them, which flatten nested unions, drop repeated members and let a
union of one member be that member. There are two spellings of a union, `union` and `alternatives`;
they say the same and compare equal.

`TypeHint.equal` is the equality that programs see: unions compare as sets.

A star may stand before a class with arguments, as in the annotation of a parameter that takes all
that is left. When annotations are evaluated the construct `Unpack` takes the place of a star, and
the two are not equal.
-/

namespace CallLog

/-- A mark that an annotation may carry. -/
inductive Mark where
  /-- the class `DontLog` itself -/
  | dontLog
  /-- a value of the class `DontLog` -/
  | dontLogValue
  | note (text : String)
  /-- any other value, by its display -/
  | other (shown : String)
  deriving Repr, DecidableEq

/-- Whether a mark keeps a parameter out of the generated message. -/
def Mark.excludes : Mark → Bool
  | dontLog | dontLogValue => true
  | note _ | other _ => false

/-- A construct that means nothing until it is subscripted. -/
inductive BareForm where
  | annotated
  | optional
  | union
  | list
  | typeOf
  | unpack
  deriving Repr, DecidableEq

/-- What an annotation with arguments is made from. -/
inductive Origin where
  | cls (k : KnownClass)
  /-- a known class with a star before it: the arguments are those of several items -/
  | starred (k : KnownClass)
  /-- the construct `Unpack`, which evaluation puts in place of a star -/
  | unpack
  deriving Repr, DecidableEq

/-- The class of lists. -/
@[match_pattern]
abbrev Origin.list : Origin := cls .list

/-- What a parameter or a result is declared to be. -/
inductive TypeHint where
  | cls (c : Class)
  /-- the value `None`, which stands for its class -/
  | none
  | noReturn
  | never
  | typeVar
  /-- a union spelled with a subscript -/
  | union (members : List TypeHint)
  /-- a union spelled with bars -/
  | alternatives (members : List TypeHint)
  | listOf (item : TypeHint)
  /-- a construct with arguments, which are kept as they were written -/
  | generic (origin : Origin) (items : List TypeHint)
  | typeOf (item : TypeHint)
  | annotated (base : TypeHint) (marks : List Mark)
  /-- an annotation written as text -/
  | text (s : String)
  /-- a text inside another construct -/
  | reference (s : String)
  | form (f : BareForm)
  /-- a class of which only the name is known -/
  | kind (name : String)
  /-- a value that is no type, by its display and by whether it says which module it is of -/
  | data (shown : String) (hasModule : Bool)
  deriving Repr, Inhabited

namespace TypeHint

/-- The annotation that admits every value. -/
def any : TypeHint := cls (.known .any)

/-- The class of `None`. -/
def noneType : TypeHint := cls (.known .noneType)

/-- The annotation that is a known class. -/
def ofKnown (k : KnownClass) : TypeHint := cls (.known k)

/-- The lists whose items an annotation describes, spelled with the class of lists. -/
def builtinList (item : TypeHint) : TypeHint := generic .list [item]

mutual

/-- Whether two annotations mean the same: unions compare as sets, whatever their spelling. -/
def equal : TypeHint → TypeHint → Bool
  | cls c, cls d => c = d
  | none, none | noReturn, noReturn | never, never | typeVar, typeVar => true
  | union ms, union ns | union ms, alternatives ns
  | alternatives ms, union ns | alternatives ms, alternatives ns =>
    allIn ms ns && ns.all fun b => isIn ms b
  | listOf a, listOf b => equal a b
  | generic k as, generic l bs => k = l && sameItems as bs
  | typeOf a, typeOf b => equal a b
  | annotated a ms, annotated b ns => equal a b && ms = ns
  | text s, text t => s = t
  | reference s, reference t => s = t
  | form f, form g => f = g
  | kind s, kind t => s = t
  | data s b, data t c => s = t && b = c
  | _, _ => false

/-- Whether every annotation of the first list equals one of the second. -/
def allIn : List TypeHint → List TypeHint → Bool
  | [], _ => true
  | a :: as, bs => bs.any (equal a) && allIn as bs

/-- Whether an annotation equals one of a list. -/
def isIn : List TypeHint → TypeHint → Bool
  | [], _ => false
  | a :: as, b => equal a b || isIn as b

/-- Whether two lists hold equal annotations one by one. -/
def sameItems : List TypeHint → List TypeHint → Bool
  | [], [] => true
  | a :: as, b :: bs => equal a b && sameItems as bs
  | _, _ => false

end

/-! ## Building annotations -/

/-- The members of a union, in either spelling. -/
def members? : TypeHint → Option (List TypeHint)
  | union ms | alternatives ms => some ms
  | _ => Option.none

/-- A list of annotations with every later repetition left out. -/
def distinct : List TypeHint → List TypeHint
  | [] => []
  | a :: as => a :: (distinct as).filter fun b => !equal a b

/-- What an annotation becomes as a part of another one: `None` becomes its class and a text becomes
a reference, for which it has to be an expression. -/
def nested : TypeHint → Except Fault TypeHint
  | none => .ok noneType
  | text s => if Expression.isExpression s then .ok (reference s) else .error .notExpression
  | form .union | form .optional | form .unpack =>
    .error (.unsupported "a plain form is no type")
  | a => .ok a

/-- The annotation of a list of flattened members: one member stands for itself. -/
def collapse (spelling : List TypeHint → TypeHint) (ms : List TypeHint) : TypeHint :=
  match distinct ms with
  | [a] => a
  | as => spelling as

/-- The members that an annotation contributes to a union spelled with a subscript. -/
def unionMembers (a : TypeHint) : List TypeHint :=
  (members? a).getD [a]

/-- The members that an annotation contributes to a union spelled with bars. -/
def barMembers : TypeHint → List TypeHint
  | alternatives ms => ms
  | none => [noneType]
  | a => [a]

/-- The union of some annotations, spelled with a subscript. -/
def unionOf (as : List TypeHint) : Except Fault TypeHint :=
  match as with
  | [] => .error (.unsupported "a union of no types")
  | as => do
    let ms ← as.mapM nested
    return collapse union (ms.flatMap unionMembers)

/-- The union of an annotation and `None`. -/
def optionalOf (a : TypeHint) : Except Fault TypeHint :=
  unionOf [a, none]

/-- Whether an annotation is a class, `None`, or built from these by bars and by classes with
arguments. -/
def isPlain : TypeHint → Bool
  | cls _ | none | generic (.cls _) _ | generic (.starred _) _ | alternatives _ | form .annotated
  | kind _ => true
  | _ => false

/-- Whether a bar between an annotation and any other makes a union spelled with a subscript. -/
def isConstruct : TypeHint → Bool
  | noReturn | never | typeVar | union _ | listOf _ | typeOf _ | generic .unpack _ | annotated _ _
  | reference _ | form .union | form .optional | form .list | form .typeOf | form .unpack => true
  | _ => false

/-- Two annotations joined by a bar. -/
def bar (a b : TypeHint) : Except Fault TypeHint :=
  match a, b with
  | none, none => .error (.unsupported "a bar between None and None")
  | a, b =>
    if a.isPlain && b.isPlain then .ok (collapse alternatives (barMembers a ++ barMembers b))
    else if a.isConstruct || b.isConstruct then unionOf [a, b]
    else .error (.unsupported "a bar beside a value that is no type")

/-- Annotations joined by bars, from the left. -/
def barAll : List TypeHint → Except Fault TypeHint
  | [] => .error (.unsupported "a union of no types")
  | a :: as => as.foldlM bar a

/-- An annotation with marks; those of an annotation that has some already come first. What is of no
module cannot be marked. -/
def marked (a : TypeHint) (marks : List Mark) : Except Fault TypeHint := do
  match ← nested a with
  | annotated b ms => return annotated b (ms ++ marks)
  | data _ false => throw (.unsupported "the value is of no module")
  | b => return annotated b marks

/-- The list of items of an annotation. -/
def listOf? (a : TypeHint) : Except Fault TypeHint :=
  return listOf (← nested a)

/-- The classes that an annotation describes. -/
def typeOf? (a : TypeHint) : Except Fault TypeHint :=
  return typeOf (← nested a)

/-- An annotation with a star before it. A star before a class with arguments is kept, before other
constructs it stands for `Unpack`. Not every annotation can have one. -/
def star? : TypeHint → Option TypeHint
  | generic (.cls k) as | generic (.starred k) as => some (generic (.starred k) as)
  | a@(listOf _) | a@(typeOf _) | a@(generic .unpack _) => some (generic .unpack [a])
  | _ => Option.none

/-- A construct with arguments that are evaluated: if it has a star, `Unpack` takes its place. -/
def withArguments : Origin → List TypeHint → TypeHint
  | .starred k, as => generic .unpack [generic (.cls k) as]
  | origin, as => generic origin as

/-! ## What an annotation says -/

/-- Whether an annotation is the class of `None`. -/
def isNoneType : TypeHint → Bool
  | cls (.known .noneType) => true
  | _ => false

mutual

/-- Whether an annotation describes exceptions: it is a class of exceptions, or a union of such
annotations, at least one of them, with or without the class of `None`. -/
def isExceptionType : TypeHint → Bool
  | cls c => c.isRaisable
  | union ms | alternatives ms => ms.any (fun a => !a.isNoneType) && areExceptionTypes ms
  | _ => false

/-- Whether all annotations of a list describe exceptions, the class of `None` apart. -/
def areExceptionTypes : List TypeHint → Bool
  | [] => true
  | a :: as => (a.isNoneType || isExceptionType a) && areExceptionTypes as

end

/-- Whether a result declared so carries a value. -/
def returnsValue : TypeHint → Bool
  | none | noReturn | never | cls (.known .noneType) => false
  | _ => true

/-- The declared type without its marks, and whether a mark excludes the parameter. -/
def unmark : TypeHint → TypeHint × Bool
  | annotated a marks => (a, marks.any Mark.excludes)
  | a => (a, false)

end TypeHint

end CallLog
