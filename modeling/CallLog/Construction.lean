import CallLog.Object
import CallLog.Schema.Invoice
import CallLog.World.Naming

/-!
# Making values of known classes

What a call of a known class gives. Exceptions take any arguments by position, the plain classes one
value, and the validated records take their fields by name.
-/

namespace CallLog

namespace Run

/-- Raises because a class does not take the arguments that it is given. -/
def refuseArguments {α : Type} : Run α :=
  Action.fault (.unbound "the class does not take the arguments")

/-- Raises if there are named arguments. -/
def onlyPositional (arguments : Arguments) : Run (List Value) :=
  if arguments.named.isEmpty then pure arguments.positional else refuseArguments

/-- The characters of a text, each as a text. -/
def characters (s : String) : List Value :=
  s.toList.map fun c => .str (String.ofList [c])

/-- The items of a value that has some. -/
def itemsOf : Value → Run (List Value)
  | .list xs | .tuple xs => pure xs
  | .str s => pure (characters s)
  | .dict entries => pure (entries.map Prod.fst)
  | _ => Action.fault (.unsupported "the value has no items")

/-- The one value that a plain class takes. -/
def fieldOf (arguments : Arguments) : Run Value := do
  let signature : Signature := { params := [{ name := "v" }] }
  match ← Action.ofExcept (signature.accept arguments) with
  | [v] => return v
  | _ => refuseArguments

/-- The text of a value. -/
def textOf (v : Value) : Run Value := do
  return .str (String.ofList (← Action.ofExcept (v.text (← Run.naming))))

/-- The value of a known class that is no exception. -/
def constructPlain (k : KnownClass) (arguments : Arguments) : Run Value :=
  match k, arguments with
  | .invoice, ⟨[], named⟩ => do
    return .model (← Action.ofExcept
      (Check.invoiceEntries (named.map fun (n, v) => (.str n, v))).get)
  | .receipt, ⟨[], named⟩ => do
    return .model (← Action.ofExcept
      (Check.receiptEntries (named.map fun (n, v) => (.str n, v))).get)
  | .base, arguments | .left, arguments | .right, arguments | .bottom, arguments
  | .loud, arguments | .mute, arguments | .inner, arguments => do
    return .specimen k (← fieldOf arguments)
  | .object, ⟨[], []⟩ | .outer, ⟨[], []⟩ | .dontLog, ⟨[], []⟩ =>
    Run.make (.instance (.known k) [])
  | .str, ⟨[], []⟩ => return .str ""
  | .str, ⟨[v], []⟩ => textOf v
  | .int, ⟨[], []⟩ => return .int 0
  | .int, ⟨[.int i], []⟩ => return .int i
  | .int, ⟨[.bool b], []⟩ => return .int (if b then 1 else 0)
  | .bool, ⟨[], []⟩ => return .bool false
  | .bool, ⟨[.bool b], []⟩ => return .bool b
  | .bool, ⟨[.int i], []⟩ => return .bool (i ≠ 0)
  | .list, ⟨[], []⟩ => return .list []
  | .list, ⟨[v], []⟩ => return .list (← itemsOf v)
  | .tuple, ⟨[], []⟩ => return .tuple []
  | .tuple, ⟨[v], []⟩ => return .tuple (← itemsOf v)
  | .dict, ⟨[], named⟩ => return .dict (named.map fun (n, v) => (.str n, v))
  | _, _ => refuseArguments

/-- The value that a call of a known class gives. -/
def construct (k : KnownClass) (arguments : Arguments) : Run Value := do
  if k.isRaisable then return .exception (.known k) (← onlyPositional arguments)
  else constructPlain k arguments

/-- The attributes that an instance of a class has from the known classes among its ancestors. -/
def inheritedMembers (ancestors : List KnownClass) (arguments : Arguments) : Run Members := do
  if ancestors.contains .base then return [("v", ← fieldOf arguments)]
  else
    match ancestors, arguments with
    | [.object], ⟨[], []⟩ => return []
    | [.object], _ => refuseArguments
    | _, _ => return []

end Run

end CallLog
