import CallLog.Value.Text

/-!
# Documents

What a record is made of: JSON data. A value becomes a document by its structure where JSON has the
structure, tuples becoming arrays, and by its display elsewhere. A dictionary becomes an object if
all its keys are scalars.
-/

namespace CallLog

/-- JSON data. -/
inductive Document where
  | null
  | bool (b : Bool)
  | int (i : Int)
  | str (s : String)
  | array (items : List Document)
  | object (fields : List (String × Document))
  deriving Repr, Inhabited

namespace Document

/-- A field put among others: a field of the same name loses its value to it. -/
def insert {α : Type} (name : String) (a : α) : List (String × α) → List (String × α)
  | [] => [(name, a)]
  | (n, b) :: rest => if n = name then (n, a) :: rest else (n, b) :: insert name a rest

/-- The integer, if it is not too long to write. -/
def ofInt (i : Int) : Except Fault Document :=
  if Text.isTooLong i then .error .longInteger else .ok (int i)

/-- The name of the field that a key becomes. -/
def fieldName : Value → Except Fault String
  | .str s => .ok s
  | .int i => do return String.ofList (← writeInt i)
  | .bool b => .ok (if b then "true" else "false")
  | .none => .ok "null"
  | _ => .error (.unsupported "keys must be str, int, float, bool or None")

mutual

/-- The document that a value becomes. -/
def ofValue (naming : Naming) : Value → Except Fault Document
  | .none => .ok null
  | .bool b => .ok (bool b)
  | .int i => ofInt i
  | .str s => .ok (str s)
  | .list xs => do return array (← ofValues naming xs)
  | .tuple xs => do return array (← ofValues naming xs)
  | .dict entries => do return object (← ofEntries naming entries [])
  | v => do return str (String.ofList (← v.display naming))

/-- The documents that some values become. -/
def ofValues (naming : Naming) : List Value → Except Fault (List Document)
  | [] => .ok []
  | v :: vs => do return (← ofValue naming v) :: (← ofValues naming vs)

/-- The fields that the entries of a dictionary become, put after those that are there. -/
def ofEntries (naming : Naming) : List (Value × Value) → List (String × Document) →
    Except Fault (List (String × Document))
  | [], fields => .ok fields
  | (k, v) :: rest, fields => do
    let name ← fieldName k
    let document ← ofValue naming v
    ofEntries naming rest (insert name document fields)

end

end Document

/-- A record: named fields. -/
abbrev Record := List (String × Document)

end CallLog
