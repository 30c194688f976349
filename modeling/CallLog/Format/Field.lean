import CallLog.Format

/-!
# Fields of texts

A field of a text holds a value, which is converted to a text and may be given a format: a side at
which the text stands, a character that fills the other side, and a width. Numbers stand at the
right side, and everything else at the left side, if the format does not say so. What else a format
may say is not known.
-/

namespace CallLog

namespace Format

/-- A side of a place that is wider than its text. -/
inductive Side where
  | left
  | middle
  | right
  deriving Repr, DecidableEq

/-- The side that a character of a format asks for. -/
def side? : Char → Option Side
  | '<' => some .left
  | '^' => some .middle
  | '>' => some .right
  | _ => none

/-- A text at a side of a place of some width. -/
def Side.place (side : Side) (fill : Char) (width : Nat) (cs : List Char) : List Char :=
  let blanks := width - cs.length
  let before := match side with
    | .left => 0
    | .middle => blanks / 2
    | .right => blanks
  List.replicate before fill ++ cs ++ List.replicate (blanks - before) fill

/-- The width that digits give, if they are digits and not too many. -/
def width? (ds : List Char) : Option Nat :=
  if ds.all Char.isDigit && ds.head? ≠ some '0' && ds.length < 5 then some (Text.valueOf ds)
  else none

/-- A text as a format places it. -/
def placed? (side : Side) (format cs : List Char) : Option (List Char) :=
  match format with
  | c :: d :: ds =>
    match side? d, side? c with
    | some side, _ => (width? ds).map fun width => side.place c width cs
    | none, some side => (width? (d :: ds)).map fun width => side.place ' ' width cs
    | none, none => (width? format).map fun width => side.place ' ' width cs
  | ds => (width? ds).map fun width => side.place ' ' width cs

/-- The text of a value that is converted: an `r` asks for its display, an `a` for its display in
ASCII characters. -/
def converted (naming : Naming) (v : Value) : Option Char → Except Fault (List Char)
  | some 'r' => v.display naming
  | some 'a' => do return (← v.display naming).flatMap asciiText
  | _ => v.text naming

/-- The text of a field. -/
def fieldText (naming : Naming) (v : Value) (conversion : Option Char) (format : String) :
    Except Fault (List Char) := do
  let cs ← converted naming v conversion
  let side : Side := if conversion.isNone && v.count?.isSome then .right else .left
  let hasPlace := match v with
    | .str _ | .int _ => true
    | _ => conversion.isSome
  match format.isEmpty, hasPlace, placed? side format.toList cs with
  | true, _, _ => return cs
  | false, true, some cs => return cs
  | _, _, _ => throw (.unsupported "the format is not known")

end Format

end CallLog
