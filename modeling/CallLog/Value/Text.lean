import CallLog.Text.Numeral
import CallLog.Text.Quoted
import CallLog.Value.SystemError

/-!
# The text of a value

A value has two texts. `Value.display` shows it so that its kind can be told from the text: strings
are quoted, exceptions show their class and arguments. `Value.text` is what a message holds: a
string stands for itself, an exception for its arguments, and everything else is displayed.

Both can fail: an integer may be too long to write, and there are values that refuse to be
displayed.
-/

namespace CallLog

/-- Texts joined by a separator. -/
def joinWith (separator : List Char) : List (List Char) → List Char
  | [] => []
  | [t] => t
  | t :: ts => t ++ separator ++ joinWith separator ts

/-- The text of an integer, if it is not too long. -/
def writeInt (i : Int) : Except Fault (List Char) :=
  match Text.writeInt? i with
  | some cs => .ok cs
  | none => .error .longInteger

namespace TypeHint

/-- A class as it is written inside an annotation. -/
def classText (naming : Naming) : Class → List Char
  | .known k =>
    if k.module = "builtins" then k.qualname.toList
    else k.module.toList ++ '.' :: k.qualname.toList
  | .made ref _ => (naming.classPath ref).toList

/-- A mark as it is written inside an annotation. -/
def markText : Mark → List Char
  | .dontLog => "<class 'logpoint.models.DontLog'>".toList
  | .dontLogValue => "<logpoint.models.DontLog object at 0x0>".toList
  | .note s => Text.quote s.toList
  | .other shown => shown.toList

mutual

/-- An annotation as it is written. -/
def write (naming : Naming) : TypeHint → List Char
  | cls c => classText naming c
  | none => "None".toList
  | noReturn => "typing.NoReturn".toList
  | never => "typing.Never".toList
  | typeVar => "~E".toList
  | union [a, cls (.known .noneType)] => "typing.Optional[".toList ++ write naming a ++ [']']
  | union [cls (.known .noneType), a] => "typing.Optional[".toList ++ write naming a ++ [']']
  | union ms => "typing.Union[".toList ++ joinWith ", ".toList (writeAll naming ms) ++ [']']
  | alternatives ms => joinWith " | ".toList (writeBars naming ms)
  | listOf a => "typing.List[".toList ++ write naming a ++ [']']
  | generic (.cls k) as =>
    k.qualname.toList ++ '[' :: joinWith ", ".toList (writeAll naming as) ++ [']']
  | generic (.starred k) as =>
    '*' :: k.qualname.toList ++ '[' :: joinWith ", ".toList (writeAll naming as) ++ [']']
  | generic .unpack as => '*' :: joinWith ", ".toList (writeAll naming as)
  | typeOf a => "typing.Type[".toList ++ write naming a ++ [']']
  | annotated a ms =>
    "typing.Annotated[".toList ++ joinWith ", ".toList (write naming a :: ms.map markText) ++ [']']
  | text s => Text.quote s.toList
  | reference s => "ForwardRef(".toList ++ Text.quote s.toList ++ [')']
  | form .annotated => "typing.Annotated".toList
  | form .optional => "typing.Optional".toList
  | form .union => "typing.Union".toList
  | form .list => "typing.List".toList
  | form .typeOf => "typing.Type".toList
  | form .unpack => "typing.Unpack".toList
  | kind s => s.toList
  | data shown _ => shown.toList

/-- Annotations as they are written between commas. -/
def writeAll (naming : Naming) : List TypeHint → List (List Char)
  | [] => []
  | a :: as => write naming a :: writeAll naming as

/-- Annotations as they are written between bars, where the class of `None` is `None`. -/
def writeBars (naming : Naming) : List TypeHint → List (List Char)
  | [] => []
  | a :: as =>
    (if a.isNoneType then "None".toList else write naming a) :: writeBars naming as

end

/-- An annotation as a value is displayed. -/
def display (naming : Naming) : TypeHint → List Char
  | cls (.known .any) => "typing.Any".toList
  | cls c => "<class '".toList ++ classText naming c ++ "'>".toList
  | form .annotated => "<class 'typing.Annotated'>".toList
  | kind s => "<class '".toList ++ s.toList ++ "'>".toList
  | a => write naming a

end TypeHint

namespace Invoice

/-- The truth values as they are written. -/
def boolText (b : Bool) : List Char :=
  if b then "True".toList else "False".toList

/-- A list of texts between parentheses. -/
def tagsText : List String → List Char
  | [] => "()".toList
  | [t] => '(' :: Text.quote t.toList ++ ",)".toList
  | ts => '(' :: joinWith ", ".toList (ts.map fun t => Text.quote t.toList) ++ [')']

/-- The display of the record that an invoice follows up. -/
def parentText : Option (List Char) → List Char
  | none => "None".toList
  | some t => t

/-- The fields of a record, each with its name. -/
def fieldTexts (parent : Option (List Char)) (number : String) (total : List Char)
    (tags : List String) (paid : Option Bool) : List (List Char) :=
  ["number=".toList ++ Text.quote number.toList, "total=".toList ++ total,
    "tags=".toList ++ tagsText tags, "parent=".toList ++ parentText parent] ++
    (paid.map fun b => "paid=".toList ++ boolText b).toList

/-- The fields of a record and of all records that it follows up. -/
def fields : Invoice → Except Fault (List (List Char))
  | mk number total tags none paid => do
    return fieldTexts none number (← writeInt total) tags paid
  | mk number total tags (some parent) paid => do
    let written ← writeInt total
    let inner ← parent.fields
    let shown := parent.kind.name.toList ++ '(' :: joinWith ", ".toList inner ++ [')']
    return fieldTexts (some shown) number written tags paid

end Invoice

namespace Value

/-- Displays between parentheses; a single one is followed by a comma. -/
def tupleText : List (List Char) → List Char
  | [t] => '(' :: t ++ ",)".toList
  | ts => '(' :: joinWith ", ".toList ts ++ [')']

mutual

/-- The display of a value. -/
def display (naming : Naming) : Value → Except Fault (List Char)
  | none => .ok "None".toList
  | bool b => .ok (Invoice.boolText b)
  | int i => writeInt i
  | str s => .ok (Text.quote s.toList)
  | bytes bs => .ok (Text.quoteBytes bs)
  | list xs => do return '[' :: joinWith ", ".toList (← displays naming xs) ++ [']']
  | tuple xs => do return tupleText (← displays naming xs)
  | dict entries => do
    return '\x7b' :: joinWith ", ".toList (← displayEntries naming entries) ++ ['\x7d']
  | error (.made ref _) _ => .ok ('<' :: (naming.className ref).toList ++ ['>'])
  | error (.known k) args => do
    let shown ← firstDisplays naming (shownCount (.known k) args) args
    return k.name.toList ++ '(' :: joinWith ", ".toList shown ++ [')']
  | fault f => .ok (f.kind.name.toList ++ '(' :: Text.quote f.message.toList ++ [')'])
  | specimen .mute _ => .error .noDisplay
  | specimen k v => do return '<' :: k.name.toList ++ ' ' :: (← display naming v) ++ ['>']
  | model m => do
    return m.kind.name.toList ++ '(' :: joinWith ", ".toList (← m.fields) ++ [')']
  | type a => .ok (a.display naming)
  | fresh (.made ref _) => .ok ('<' :: (naming.className ref).toList ++ ['>'])
  | fresh (.known .ellipsis) => .ok "Ellipsis".toList
  | fresh (.known .notImplemented) => .ok "NotImplemented".toList
  | fresh (.known k) => .ok ('<' :: k.name.toList ++ " object at 0x0>".toList)
  | object ref _ => .ok (naming.display ref).toList

/-- The displays of some values. -/
def displays (naming : Naming) : List Value → Except Fault (List (List Char))
  | [] => .ok []
  | v :: vs => do return (← display naming v) :: (← displays naming vs)

/-- The displays of the first of some values. -/
def firstDisplays (naming : Naming) : Nat → List Value → Except Fault (List (List Char))
  | 0, _ | _, [] => .ok []
  | n + 1, v :: vs => do return (← display naming v) :: (← firstDisplays naming n vs)

/-- The displays of the entries of a dictionary. -/
def displayEntries (naming : Naming) : List (Value × Value) → Except Fault (List (List Char))
  | [] => .ok []
  | (k, v) :: rest => do
    let key ← display naming k
    let value ← display naming v
    return (key ++ ": ".toList ++ value) :: (← displayEntries naming rest)

end

mutual

/-- The text of a value in a message. -/
def text (naming : Naming) : Value → Except Fault (List Char)
  | str s => .ok s.toList
  | error c args => errorText naming c args
  | fault f => .ok f.message.toList
  | specimen .loud v => do return "LOUD ".toList ++ (← text naming v)
  | model m => do return joinWith [' '] (← m.fields)
  | v => display naming v

/-- The text of an exception. One argument stands for itself, but a missing key is displayed;
an error of the system with a number says so and names its files. -/
def errorText (naming : Naming) (c : Class) : List Value → Except Fault (List Char)
  | [] => .ok []
  | [v] => if c.derivesFrom .keyError then display naming v else text naming v
  | n :: v :: rest =>
    if c.derivesFrom .osError && rest.length ≤ 3 then do
      let number ← text naming n
      let reason ← text naming v
      let shown := "[Errno ".toList ++ number ++ "] ".toList ++ reason
      match files c (n :: v :: rest), rest with
      | [_], f :: _ => return shown ++ ": ".toList ++ (← display naming f)
      | [_, _], [f, _, g] =>
        let first ← display naming f
        return shown ++ ": ".toList ++ first ++ " -> ".toList ++ (← display naming g)
      | _, _ => return shown
    else do
      let first ← display naming n
      let second ← display naming v
      return tupleText (first :: second :: (← displays naming rest))

end

/-- The length of a value that has one. -/
def length? : Value → Option Nat
  | str s => some s.length
  | bytes bs => some bs.length
  | list xs | tuple xs => some xs.length
  | dict entries => some entries.length
  | _ => Option.none

end Value

end CallLog
