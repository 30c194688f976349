import CallLog.World.Lookup

/-!
# The line of a new class

A new class is put into one line with all its ancestors, such that every class stands before its
bases, and the bases of a class stand in the order in which they are given. The line is merged from
the lines of the bases and the list of the bases: again and again the first class is taken that
heads one of the lines and stands further back in none. Where there is no such class, the bases
contradict each other and there is no line.

Some known classes fix how their values are laid out, and two such layouts do not go together.
-/

namespace CallLog

namespace Linearization

/-- Whether a class stands in one of the lines behind the first place. -/
def isBehind (lines : List (List Class)) (c : Class) : Bool :=
  lines.any fun line => (line.drop 1).contains c

/-- The first class that heads a line and stands further back in none. -/
def candidate? (lines : List (List Class)) : Option Class :=
  (lines.filterMap List.head?).find? fun c => !isBehind lines c

/-- A line without a class at its head. -/
def advance (c : Class) (line : List Class) : List Class :=
  if line.head? = some c then line.drop 1 else line

/-- The lines merged into one; the number bounds its length. -/
def mergeWithin : Nat → List (List Class) → Option (List Class)
  | 0, _ => some []
  | n + 1, lines =>
    if lines.all List.isEmpty then some []
    else
      match candidate? lines with
      | some c => (mergeWithin n (lines.map (advance c))).map (c :: ·)
      | none => none

/-- The lines merged into one, if they do not contradict each other. -/
def merge (lines : List (List Class)) : Option (List Class) :=
  mergeWithin (lines.flatten.length + 1) lines

/-- The known classes that fix the layout of their values. -/
def layouts : List KnownClass :=
  [.int, .float, .str, .bytes, .list, .tuple, .dict, .set, .type, .moduleType, .byteArray,
   .classMethod, .complex, .enumerate, .filter, .frozenSet, .map, .property, .reversed,
   .staticMethod, .superType, .zip, .baseModel, .baseException, .osError, .systemExit,
   .stopIteration, .attributeError, .nameError, .syntaxError, .importError, .unicodeDecodeError,
   .unicodeEncodeError, .unicodeTranslateError, .baseExceptionGroup]

/-- The layout of the values of a class, if a known class fixes it. -/
def layout? (ancestors : List KnownClass) : Option KnownClass :=
  ancestors.find? fun k => layouts.contains k

/-- Whether one of the layouts extends all others. -/
def layoutsAgree (ks : List KnownClass) : Bool :=
  ks.isEmpty || ks.any fun k => ks.all fun l => k.isSubclass l

/-- Whether no class can derive from a class. -/
def isFinal : Class → Bool
  | .known k => [.bool, .noneType, .range, .slice, .memoryView, .function, .builtinFunction,
      .method, .generator, .ellipsis, .notImplemented].contains k
  | .made .. => false

end Linearization

namespace World

open Linearization

/-- The ancestors of a new class with the given bases, ordered. -/
def ancestorsOf (world : World) (bases : List Class) : Except Fault (List Class) :=
  let bases := if bases.isEmpty then [.known .object] else bases
  if bases.any isFinal then .error (.unsupported "the class is no base of other classes")
  else if !layoutsAgree (bases.filterMap fun c => layout? c.ancestors) then
    .error (.unsupported "the layouts of the bases conflict")
  else
    match merge (bases.map world.lineOf ++ [bases]) with
    | some line => .ok line
    | none => .error (.unsupported "the bases have no consistent order")

end World

end CallLog
