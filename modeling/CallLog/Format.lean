import CallLog.Format.Number
import CallLog.Value.Text

/-!
# Percent formats

The events of a log record are percent formats: a percent sign and an `s` stand for the text of the
next operand, an `r` in place of the `s` for its display, and two percent signs for one; there are
conversions for numbers and characters besides. A key in parentheses takes the operand from a
dictionary. `Format.fill` fills a format; it fails when there are too few operands or too many.

`Format.ofMessage` turns the slots of a message into conversions and escapes its percent signs, so
that the filled format is the message with its slots filled.
-/

namespace CallLog

namespace Format

/-! ## Operands -/

/-- The operands of a format: those that are still to be taken, and the dictionary that keys refer
to. -/
structure Operands where
  pending : List Value
  mapping : Option (List (Value × Value)) := none

/-- The operands that the arguments of a log call give: a single dictionary that is not empty is
itself the operand, and keys refer to it. -/
def operandsOf : List Value → Operands
  | [.dict (e :: entries)] => ⟨[.dict (e :: entries)], some (e :: entries)⟩
  | args => ⟨args, none⟩

/-- The entry of a dictionary under a key that is a text. -/
def lookup (key : String) : List (Value × Value) → Option Value
  | [] => none
  | (.str k, v) :: rest => if k = key then some v else lookup key rest
  | _ :: rest => lookup key rest

/-- The next operand, and the operands that are left. -/
def take (operands : Operands) : Except Fault (Value × Operands) :=
  match operands.pending with
  | [] => .error .tooFewOperands
  | v :: rest => .ok (v, { operands with pending := rest })

/-- The operands after a key: its entry is the only one that is left. -/
def select (operands : Operands) : Option (List Char) → Except Fault Operands
  | none => .ok operands
  | some name =>
    match operands.mapping with
    | none => .error .needsMapping
    | some entries =>
      match lookup (String.ofList name) entries with
      | some v => .ok { operands with pending := [v] }
      | none => .error (.missingKey (String.ofList (Text.quote name)))

/-- The greatest width. -/
def widthLimit : Nat := 0x7FFFFFFFFFFFFFFF

/-- The greatest precision. -/
def precisionLimit : Nat := 0x7FFFFFFF

/-- The width from which on there is no room for a text. -/
def memoryLimit : Nat := 0x10000000000

/-- A width or precision that is written or taken from the operands, none of them over a limit. -/
def amount (limit : Nat) (operands : Operands) :
    Option Amount → Except Fault (Option Int × Operands)
  | none => .ok (none, operands)
  | some (.fixed n) => if limit < n then .error .badConversion else .ok (some n, operands)
  | some .operand => do
    let (v, rest) ← take operands
    match v.count? with
    | none => .error (.unsupported "a width is an integer")
    | some i =>
      if (limit : Int) < i || i < -(limit : Int) - 1 then .error .tooLargeNumber
      else .ok (some i, rest)

/-! ## Conversions -/

/-- A character as it is shown where only ASCII characters are. -/
def asciiText (c : Char) : List Char :=
  if c.toNat < 0x80 then [c]
  else if c.toNat < 0x100 then '\\' :: 'x' :: Text.hex 2 c.toNat
  else if c.toNat < 0x10000 then '\\' :: 'u' :: Text.hex 4 c.toNat
  else '\\' :: 'U' :: Text.hex 8 c.toNat

/-- The integer that a value counts as. -/
def integerOf (v : Value) : Except Fault Int :=
  match v.count? with
  | some i => .ok i
  | none => .error (.unsupported "a number is required")

/-- The character that an operand is, or has the number of. -/
def characterOf : Value → Except Fault Char
  | .str s =>
    match s.toList with
    | [c] => .ok c
    | _ => .error (.unsupported "a character is required")
  | v =>
    match v.count? with
    | none => .error (.unsupported "a character is required")
    | some i =>
      if 0 ≤ i && i < 0x110000 then .ok (Char.ofNat i.toNat)
      else .error .tooLargeNumber

/-- A text cut to a precision. -/
def cut (precision : Option Nat) (cs : List Char) : List Char :=
  match precision with
  | some n => cs.take n
  | none => cs

/-- An integer as one of the conversions for integers writes it. -/
def integerText (c : Char) (flags : Flags) (precision : Nat) (i : Int) : Except Fault Written :=
  if c = 'o' then .ok (.inBase 8 ['0', 'o'] flags.isMarked precision i)
  else if c = 'x' then .ok (.inBase 16 ['0', 'x'] flags.isMarked precision i)
  else if c = 'X' then .ok (Written.inBase 16 ['0', 'x'] flags.isMarked precision i).capitals
  else if Text.isTooLong i then .error .longInteger
  else .ok (.decimal i precision)

/-- A number as one of the conversions for fractions writes it; capital letters ask for capital
letters. -/
def fractionText (c : Char) (flags : Flags) (precision : Nat) (i : Int) : Except Fault Written :=
  let n := roundedTo53 i.natAbs
  if floatLimit ≤ n then .error .tooLargeNumber
  else
    let w : Written := ⟨i < 0, [], floatText c.toLower flags.isMarked precision n⟩
    .ok (if c.isUpper then w.capitals else w)

/-- An operand as a conversion writes it. -/
def convert (naming : Naming) (flags : Flags) (width : Nat) (precision : Option Nat) (c : Char)
    (v : Value) : Except Fault (List Char) :=
  if c = 's' then do return padded flags width (cut precision (← v.text naming))
  else if c = 'r' then do return padded flags width (cut precision (← v.display naming))
  else if c = 'a' then do
    return padded flags width (cut precision ((← v.display naming).flatMap asciiText))
  else if c = 'c' then do return padded flags width [← characterOf v]
  else if "diuoxX".toList.contains c then do
    let w ← integerText c flags (precision.getD 0) (← integerOf v)
    return w.padded flags width
  else if "eEfFgG".toList.contains c then do
    let w ← fractionText c flags (precision.getD 6) (← integerOf v)
    return w.padded flags width
  else .error .badConversion

/-- What a directive that ends with a conversion writes, and the operands that it leaves. A negative
width asks for the left side, a negative precision counts as zero. -/
def apply (naming : Naming) (d : Directive) (ending : Ending) (operands : Operands) :
    Except Fault (List Char × Operands) := do
  let operands ← select operands d.key
  let (width, operands) ← amount widthLimit operands d.width
  let (precision, operands) ← amount precisionLimit operands d.precision
  match ending with
  | .missing => .error .badConversion
  | .conversion c =>
    let (v, operands) ← take operands
    let flags := { d.flags with isLeft := d.flags.isLeft || width.any (· < 0) }
    let places := (width.getD 0).natAbs
    let room := if memoryLimit < places then 0 else places
    let written ← convert naming flags room (precision.map Int.toNat) c v
    if memoryLimit < places then .error .outOfMemory else .ok (written, operands)

/-- The text of the pieces of a format, filled with operands. -/
def fillPieces (naming : Naming) : List Piece → Operands → Except Fault (List Char)
  | [], operands =>
    if operands.mapping.isNone && !operands.pending.isEmpty then .error .tooManyOperands else .ok []
  | .lit c :: rest, operands => do return c :: (← fillPieces naming rest operands)
  | .hole directive ending :: rest, operands => do
    let (shown, operands) ← apply naming directive ending operands
    return shown ++ (← fillPieces naming rest operands)
  | .openKey :: _, operands =>
    .error (if operands.mapping.isNone then .needsMapping else .badConversion)

/-- A format filled with the arguments of a log call. -/
def fill (naming : Naming) (format : List Char) (args : List Value) :
    Except Fault (List Char) :=
  fillPieces naming (Piece.ofFormat format) (operandsOf args)

/-- The format whose conversions are the slots of a message. -/
def ofMessage : List Char → List Char
  | [] => []
  | '%' :: cs => '%' :: '%' :: ofMessage cs
  | '\x7b' :: '\x7d' :: cs => '%' :: 's' :: ofMessage cs
  | c :: cs => c :: ofMessage cs

/-- The slots become conversions, and a percent sign is doubled. -/
example :
    ofMessage "5% of \x7b\x7d\x7b".toList = "5%% of %s\x7b".toList := by
  decide

end Format

end CallLog
