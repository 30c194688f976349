import CallLog.Value

/-!
# Keys of dictionaries

A dictionary has at most one entry for a key. A truth value is one key with the number that it
counts as, and tuples are one key if their items are, one by one. Values that can change are no
keys.
-/

namespace CallLog

namespace Value

mutual

/-- Whether a value can be a key. -/
def isHashable : Value → Bool
  | list _ | dict _ | model _ => false
  | tuple xs => areHashable xs
  | fresh (.known k) => k ≠ .set && k ≠ .byteArray && k ≠ .slice
  | _ => true

/-- Whether all values can be keys. -/
def areHashable : List Value → Bool
  | [] => true
  | v :: vs => v.isHashable && areHashable vs

end

mutual

/-- Whether two values are one key. -/
def isSameKey : Value → Value → Bool
  | none, none => true
  | str s, str t => s = t
  | bytes s, bytes t => s = t
  | tuple xs, tuple ys => areSameKeys xs ys
  | type a, type b => TypeHint.equal a b
  | object ref _, object ref' _ => ref = ref'
  | v, w =>
    match v.count?, w.count? with
    | some i, some j => i = j
    | _, _ => false

/-- Whether the values of two lists are one key each. -/
def areSameKeys : List Value → List Value → Bool
  | [], [] => true
  | v :: vs, w :: ws => v.isSameKey w && areSameKeys vs ws
  | _, _ => false

end

/-- The entries of a dictionary with a key standing for a value. A key that is there keeps its place
and its form. -/
def putEntry (k v : Value) : List (Value × Value) → List (Value × Value)
  | [] => [(k, v)]
  | e :: rest => if e.1.isSameKey k then (e.1, v) :: rest else e :: putEntry k v rest

/-- The dictionary with the given entries; later ones replace earlier ones. -/
def dictOf (entries : List (Value × Value)) : Except Fault Value := do
  match entries.find? fun e => !e.1.isHashable with
  | some (k, _) => throw (.unhashable (Naming.empty.kindOf k))
  | Option.none => return dict (entries.foldl (fun es (k, v) => putEntry k v es) [])

end Value

end CallLog
