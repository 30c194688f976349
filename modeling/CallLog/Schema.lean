import CallLog.Text.Blank
import CallLog.Value.Text

/-!
# Schemas

Input data is checked field by field. A check of one part gives a value or the issues of the part,
and the checks of a record are joined so that the issues of all fields are gathered in order. Checks
are lax where no meaning is lost: a numeral is accepted for an integer, `yes` for a truth value,
bytes for a text that they encode. Keys that a record does not have are ignored.
-/

namespace CallLog

/-- The result of a check: a value, or what is wrong. -/
inductive Checked (α : Type) where
  | valid (a : α)
  | invalid (issues : List Issue)

namespace Checked

/-- The result with a function applied to the value. -/
def map {α β : Type} (f : α → β) : Checked α → Checked β
  | valid a => valid (f a)
  | invalid issues => invalid issues

/-- Two results joined: the issues of both are gathered. -/
def seq {α β : Type} : Checked (α → β) → Checked α → Checked β
  | valid f, valid a => valid (f a)
  | valid _, invalid issues => invalid issues
  | invalid issues, valid _ => invalid issues
  | invalid issues, invalid more => invalid (issues ++ more)

instance : Applicative Checked where
  pure := valid
  seq f a := seq f (a ())
  map := map

/-- The result with its issues seen from one step further out. -/
def within {α : Type} (step : Step) : Checked α → Checked α
  | valid a => valid a
  | invalid issues => invalid (issues.map (Issue.within step))

/-- A part with one problem. -/
def problem {α : Type} (p : Problem) : Checked α :=
  invalid [⟨[], p⟩]

/-- The results of checking the parts of a sequence, joined. -/
def allOf {α : Type} : List (Checked α) → Checked (List α)
  | [] => valid []
  | c :: cs => seq (map List.cons c) (allOf cs)

/-- The value, or the fault that the data is invalid. -/
def get {α : Type} : Checked α → Except Fault α
  | valid a => .ok a
  | invalid issues => .error (.invalid issues)

end Checked

/-- A check of a part of some data. -/
abbrev Check (α : Type) := Value → Checked α

namespace Check

open Checked

/-- A text; bytes are taken for the text that they encode. -/
def string : Check String
  | .str s => valid s
  | .bytes bs =>
    match String.fromUTF8? ⟨bs.toArray⟩ with
    | some s => valid s
    | none => problem .notUnicode
  | _ => problem .notString

/-- White space that is ignored around a numeral. -/
def isMargin (c : Char) : Bool :=
  Text.isBlank c && !(0x1C ≤ c.toNat && c.toNat ≤ 0x1F)

/-- A numeral without the white space around it. -/
def withoutMargin (cs : List Char) : List Char :=
  ((cs.dropWhile isMargin).reverse.dropWhile isMargin).reverse

/-- A numeral without a fraction that is written as zeros. -/
def withoutFraction (cs : List Char) : List Char :=
  let whole := cs.takeWhile (· ≠ '.')
  match cs.drop whole.length with
  | _ :: d :: ds => if (d :: ds).all (· = '0') then whole else cs
  | _ => cs

/-- A numeral without the zeros that it begins with and the underscores among them; where nothing
else comes before the fraction or the end, the last of these is kept. -/
def withoutZeros : List Char → List Char
  | '0' :: rest =>
    let zeros := rest.takeWhile fun c => c = '0' || c = '_'
    match rest.drop zeros.length with
    | [] => [zeros.getLastD '0']
    | '.' :: fraction => zeros.getLastD '0' :: '.' :: fraction
    | after => after
  | cs => cs

/-- Digits without the single underscores that part them. -/
def ungrouped : List Char → Option (List Char)
  | [] => none
  | [c] => if Text.isDigit c then some [c] else none
  | c :: '_' :: rest => if Text.isDigit c then (ungrouped rest).map (c :: ·) else none
  | c :: rest => if Text.isDigit c then (ungrouped rest).map (c :: ·) else none

/-- An integer that is written as a numeral. -/
def readInteger (cs : List Char) : Checked Int :=
  match Text.splitSign (withoutMargin cs) with
  | (sign, body) =>
    match ungrouped (withoutFraction (withoutZeros body)) with
    | none => problem .unreadableInteger
    | some ds =>
      if Text.digitLimit < ds.length then problem .hugeInteger
      else valid (sign * Text.valueOf ds)

/-- An integer. -/
def integer : Check Int
  | .int i => valid i
  | .bool b => valid (if b then 1 else 0)
  | .str s => readInteger s.toList
  | .bytes bs =>
    match String.fromUTF8? ⟨bs.toArray⟩ with
    | some s => readInteger s.toList
    | none => problem .unreadableInteger
  | _ => problem .notInteger

/-- The words for a truth value. -/
def truthWord? (s : String) : Option Bool :=
  let word := s.toLower
  if ["1", "on", "t", "true", "y", "yes"].contains word then some true
  else if ["0", "off", "f", "false", "n", "no"].contains word then some false
  else none

/-- Whether an integer fits into 64 bits with a sign. -/
def isShort (i : Int) : Bool :=
  -0x8000000000000000 ≤ i && i < 0x8000000000000000

/-- A truth value. An integer is read as one if it is short. -/
def boolean : Check Bool
  | .bool b => valid b
  | .int i =>
    if i = 0 then valid false else if i = 1 then valid true
    else if isShort i then problem .unreadableBoolean else problem .notBoolean
  | .str s =>
    match truthWord? s with
    | some b => valid b
    | none => problem .unreadableBoolean
  | .bytes bs =>
    match (String.fromUTF8? ⟨bs.toArray⟩).bind truthWord? with
    | some b => valid b
    | none => problem .unreadableBoolean
  | _ => problem .notBoolean

/-- One of some fixed texts. -/
def oneOf {α : Type} (options : List (String × α)) : Check α
  | .str s =>
    match options.lookup s with
    | some a => valid a
    | none => problem (.notOneOf (options.map Prod.fst))
  | _ => problem (.notOneOf (options.map Prod.fst))

/-- Nothing, or what a check accepts. -/
def optional {α : Type} (check : Check α) : Check (Option α)
  | .none => valid none
  | v => map some (check v)

/-- A sequence whose items a check accepts. -/
def sequenceOf {α : Type} (check : Check α) : Check (List α)
  | .list xs | .tuple xs =>
    allOf (xs.zipIdx.map fun (x, i) => within (.index i) (check x))
  | _ => problem .notTuple

/-- A record: a dictionary whose entries a check accepts. -/
def record {α : Type} (name : String) (check : List (Value × Value) → Checked α) : Check α
  | .dict entries => check entries
  | _ => problem (.notRecord name)

/-- The field of a record under a key. -/
def entry? (key : String) : List (Value × Value) → Option Value
  | [] => none
  | (.str k, v) :: rest => if k = key then some v else entry? key rest
  | _ :: rest => entry? key rest

/-- A field that a record needs. -/
def required {α : Type} (entries : List (Value × Value)) (key : String) (check : Check α) :
    Checked α :=
  match entry? key entries with
  | some v => within (.field key) (check v)
  | none => within (.field key) (problem .missing)

/-- A field that has a value of its own when it is not given. -/
def defaulted {α : Type} (entries : List (Value × Value)) (key : String) (value : α)
    (check : Check α) : Checked α :=
  match entry? key entries with
  | some v => within (.field key) (check v)
  | none => valid value

end Check

end CallLog
