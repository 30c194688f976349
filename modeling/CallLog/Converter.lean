import CallLog.Raised
import CallLog.Schema.Invoice

/-!
# Converters

A converter turns a value into something worth putting in a message. A registry holds converters by
class; the one that is used for a value belongs to the first class in the value's line of ancestors
that has one. The registry keeps the latest registration first, so that it hides the earlier ones
for the same class.

What a converter makes of a value is given with the registry. Usually it is `Converter.apply`; a
program that brings converters of its own gives them another meaning.
-/

namespace CallLog

/-- A way to turn a value into another one. -/
inductive Converter where
  /-- the plain data of a validated record -/
  | dump
  | const (v : Value)
  /-- a fixed text before the text of the value -/
  | tag (label : String)
  | display
  | same
  /-- the name of the value's class -/
  | kind
  | length
  /-- the one field of a plain value -/
  | field
  | raises (c : Class) (args : List Value)
  deriving Inhabited

namespace Converter

/-- The failure to find a member in a class. -/
def noClassMember (naming : Naming) (name : String) (c : Class) : Fault :=
  if c.derivesFrom .baseModel then .noSuchMember name
  else .noMember ("type object '" ++ naming.nameOf c ++ "'") name

/-- The failure to find a member in a type. A construct is asked for it in place of what it was
built from. -/
def noTypeMember (naming : Naming) (name : String) : TypeHint → Fault
  | .cls c => noClassMember naming name c
  | .noReturn | .never | .union _ | .generic .unpack _ | .form .optional | .form .union
  | .form .unpack => .noSuchMember name
  | .listOf _ | .form .list => noClassMember naming name (.known .list)
  | .typeOf _ | .form .typeOf => noClassMember naming name (.known .type)
  | .generic (.cls k) _ | .generic (.starred k) _ => noClassMember naming name (.known k)
  | .annotated a _ => noTypeMember naming name a
  | .form .annotated => .noMember "type object 'Annotated'" name
  | a => .noMember ("'" ++ naming.fullKindOf (.type a) ++ "' object") name

/-- The failure to find a member in a value. -/
def noMember (naming : Naming) (name : String) : Value → Fault
  | .type a => noTypeMember naming name a
  | v => .noMember ("'" ++ naming.fullKindOf v ++ "' object") name

/-- What the converter makes of a value. -/
def apply (naming : Naming) : Converter → Value → Except Raised Value
  | dump, .model m => .ok m.dump
  | dump, v =>
    match v with
    | .object _ ks => if ks.contains .baseModel then .ok (.dict []) else noDump v
    | v => noDump v
  | const v, _ => .ok v
  | tag label, v =>
    match v.text naming with
    | .ok cs => .ok (.str (String.ofList (label.toList ++ cs)))
    | .error f => .error (.fault f)
  | display, v =>
    match v.display naming with
    | .ok cs => .ok (.str (String.ofList cs))
    | .error f => .error (.fault f)
  | same, v => .ok v
  | kind, v => .ok (.str (naming.kindOf v))
  | length, v =>
    match v.length? with
    | some n => .ok (.int n)
    | none => .error (.fault (.noLength (naming.fullKindOf v)))
  | field, .specimen _ v => .ok v
  | field, v => .error (.fault (noMember naming "v" v))
  | raises c args, _ => .error (.ofClass c args)
where
  /-- The failure to turn a value into plain data. -/
  noDump (v : Value) : Except Raised Value :=
    .error (.fault (noMember naming "model_dump" v))

end Converter

/-- A registry of converters by class, the latest registration first. What the classes are is left
open. -/
structure Registry (κ : Type) where
  entries : List (κ × Converter) := []
  /-- what each converter makes of a value -/
  meaning : Naming → Converter → Value → Except Raised Value := Converter.apply

namespace Registry

variable {κ : Type} [DecidableEq κ]

/-- The registry with a converter registered for a class. -/
def add (registry : Registry κ) (k : κ) (converter : Converter) : Registry κ :=
  { registry with entries := (k, converter) :: registry.entries }

/-- The converter registered for a class itself. -/
def get? (registry : Registry κ) (k : κ) : Option Converter :=
  registry.entries.lookup k

/-- The converter of the first class in a line of ancestors that has one. -/
def find (registry : Registry κ) (line : List κ) : Option Converter :=
  line.findSome? registry.get?

end Registry

/-- A registry of converters for the known classes. -/
abbrev Converters := Registry KnownClass

namespace Converters

/-- The registry with a converter registered. Only known classes are ever looked up, so that
anything else leaves the registry as it is. -/
def register (registry : Converters) (a : TypeHint) (converter : Converter) : Converters :=
  match a with
  | .cls (.known k) => registry.add k converter
  | _ => registry

/-- A registry with the registrations of a list, in order. -/
def ofList (registrations : List (TypeHint × Converter)) : Converters :=
  registrations.foldl (fun registry (a, converter) => registry.register a converter) {}

/-- The registry that is used where none is given: records are turned into plain data. -/
def standard : Converters :=
  ofList [(.ofKnown .baseModel, .dump)]

/-- The converter for the values that an annotation describes; only classes, with or
without arguments, have a line of ancestors. -/
def findFor (registry : Converters) (a : TypeHint) : Except Fault (Option Converter) :=
  match a with
  | .cls c => .ok (registry.find c.ancestors)
  | .generic (.cls k) _ | .generic (.starred k) _ => .ok (registry.find k.line)
  | _ => .error (.noMember "the annotation" "__mro__")

end Converters

end CallLog
