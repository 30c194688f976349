import CallLog.Plan
import CallLog.Template
import CallLog.Text.Numeral

/-!
# Rules for the slots of a message

With an empty message template the message is generated: the words of the name, and a slot for every
parameter that is not excluded. With a template of its own, each slot refers to a parameter: an
empty body to the next one, a numeral to the one at that index. Any other body, and an index without
a parameter, puts a diagnostic text in place of the argument.

`Rule.resolve` gives the rules for all slots together with the message in its normal form.
-/

namespace CallLog

namespace Rule

/-- What the body of a slot refers to. -/
inductive Reference where
  /-- the parameter after the one that the last empty body took -/
  | next
  | index (i : Int)
  | invalid (text : List Char)
  deriving Repr, DecidableEq

/-- What the body of a slot refers to. A numeral may be too long to read. -/
def reference (body : List Char) : Except Fault Reference :=
  match body with
  | [] => .ok .next
  | body =>
    match Text.numeral? body with
    | none => .ok (.invalid body)
    | some (sign, ds) =>
      if Text.digitLimit < ds.length then .error (.longNumeral ds.length)
      else .ok (.index (sign * Text.valueOf ds))

/-- The rule for an index: the parameter there, or a text that names the index. -/
def forIndex (parameters : List Parameter) (i : Int) : Rule :=
  match (if i < 0 then none else parameters[i.toNat]?) with
  | some p => ofParameter p
  | none => .static ("invalid log parameter index: " ++ String.ofList (Text.numeral i))

/-- The rules for the bodies of some slots; `next` parameters are taken by empty bodies already. -/
def explicitRules (parameters : List Parameter) : Nat → List (List Char) → Except Fault (List Rule)
  | _, [] => .ok []
  | next, body :: rest => do
    match ← reference body with
    | .next => return forIndex parameters next :: (← explicitRules parameters (next + 1) rest)
    | .index i => return forIndex parameters i :: (← explicitRules parameters next rest)
    | .invalid text =>
      return .static (String.ofList ("invalid log parameter expression: ".toList ++ text)) ::
        (← explicitRules parameters next rest)

/-- The rules of a generated message: one for each parameter that is not excluded. -/
def autoRules (parameters : List Parameter) : List Rule :=
  (parameters.filter fun p => !p.dontLog).map .ofParameter

/-- Some empty slots, each after a space. -/
def slots : Nat → List Char
  | 0 => []
  | n + 1 => ' ' :: '\x7b' :: '\x7d' :: slots n

/-- The rules for all slots of a message, and the message with empty slots. The error parameter
takes no slot of a generated message. -/
def resolve (name : String) (parameters : List Parameter) (message : String)
    (errorIndex : Option Int) : Except Fault (List Rule × String) :=
  if message = "" then
    let rules := autoRules parameters
    let shown := match errorIndex with
      | some i => if rules.any (Rule.isLiveFor i) then rules.length - 1 else rules.length
      | none => rules.length
    .ok (rules, String.ofList (Template.spacedName name.toList ++ slots shown))
  else do
    let template := Template.ofText message.toList
    let rules ← explicitRules parameters 0 template.bodies
    return (rules, String.ofList template.strip.toText)

end Rule

end CallLog
