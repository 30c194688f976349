/-!
# Directives of percent formats

A directive begins with a percent sign. After it come, all but the last optional: a key in
parentheses, flags, a least width, a precision after a point, a letter that says nothing, and the
character that names the conversion. The width and the precision are written as digits or, as a
star, taken from the operands. Two percent signs stand for one.

`Piece.scan` reads a format character by character and gives its pieces.
-/

namespace CallLog

namespace Format

/-- The flags of a directive. -/
structure Flags where
  /-- whether the text stands at the left of its width -/
  isLeft : Bool := false
  /-- whether a number that is not negative shows a plus sign -/
  hasPlus : Bool := false
  /-- whether a number that is not negative shows a blank in place of a sign -/
  hasBlank : Bool := false
  /-- whether a number shows its base, or a point without digits after it -/
  isMarked : Bool := false
  /-- whether the width is filled with zeros -/
  isZeroed : Bool := false
  deriving Repr, DecidableEq

/-- The flags with one more; nothing if the character is no flag. -/
def Flags.add? (flags : Flags) : Char → Option Flags
  | '-' => some { flags with isLeft := true }
  | '+' => some { flags with hasPlus := true }
  | ' ' => some { flags with hasBlank := true }
  | '#' => some { flags with isMarked := true }
  | '0' => some { flags with isZeroed := true }
  | _ => none

/-- A width or a precision. -/
inductive Amount where
  | fixed (n : Nat)
  /-- the next operand -/
  | operand
  deriving Repr, DecidableEq

/-- How a directive ends. -/
inductive Ending where
  /-- with the character that names the conversion -/
  | conversion (c : Char)
  /-- nothing ends it -/
  | missing
  deriving Repr, DecidableEq

/-- A directive: what stands between its percent sign and its conversion. -/
structure Directive where
  key : Option (List Char) := none
  flags : Flags := {}
  width : Option Amount := none
  precision : Option Amount := none
  deriving Repr, DecidableEq

/-- A piece of a format. -/
inductive Piece where
  | lit (c : Char)
  | hole (directive : Directive) (ending : Ending)
  /-- a key whose parentheses are not closed -/
  | openKey
  deriving Repr, DecidableEq

/-- What the reading of a directive can go on with. -/
inductive Stage where
  /-- after the percent sign -/
  | start
  /-- inside a key, read backwards, and the number of parentheses to close -/
  | key (depth : Nat) (read : List Char)
  | flags
  | widthDigits (n : Nat)
  | afterWidth
  | precision
  | precisionDigits (n : Nat)
  | afterPrecision
  | conversion
  deriving Repr, DecidableEq

/-- Where the reading of a format stands. -/
inductive State where
  | plain
  | inside (stage : Stage) (directive : Directive)
  deriving Repr, DecidableEq

/-- The value of a digit. -/
def digit? (c : Char) : Option Nat :=
  if '0' ≤ c && c ≤ '9' then some (c.toNat - '0'.toNat) else none

/-- What a step of the reading gives: a new state, and a piece if one is complete. -/
abbrev Move := State × List Piece

namespace Directive

/-- The directive ends with a character. -/
def ended (d : Directive) (c : Char) : Move :=
  (.plain, [.hole d (.conversion c)])

/-- A character where the letter may come that says nothing. -/
def atSize (d : Directive) (c : Char) : Move :=
  if c = 'h' || c = 'l' || c = 'L' then (.inside .conversion d, []) else d.ended c

/-- A character where the point may come. -/
def atPoint (d : Directive) (c : Char) : Move :=
  if c = '.' then (.inside .precision { d with precision := some (.fixed 0) }, []) else d.atSize c

/-- A character where the width may come. -/
def atWidth (d : Directive) (c : Char) : Move :=
  if c = '*' then (.inside .afterWidth { d with width := some .operand }, [])
  else
    match digit? c with
    | some n => (.inside (.widthDigits n) { d with width := some (.fixed n) }, [])
    | none => d.atPoint c

/-- A character where flags may come. -/
def atFlags (d : Directive) (c : Char) : Move :=
  match d.flags.add? c with
  | some flags => (.inside .flags { d with flags := flags }, [])
  | none => d.atWidth c

/-- A character after the point. -/
def atPrecision (d : Directive) (c : Char) : Move :=
  if c = '*' then (.inside .afterPrecision { d with precision := some .operand }, [])
  else
    match digit? c with
    | some n => (.inside (.precisionDigits n) { d with precision := some (.fixed n) }, [])
    | none => d.atSize c

/-- A character inside a key. -/
def atKey (d : Directive) (depth : Nat) (read : List Char) (c : Char) : Move :=
  if c = ')' then
    match depth with
    | 0 => (.inside .flags { d with key := some read.reverse }, [])
    | depth + 1 => (.inside (.key depth (c :: read)) d, [])
  else if c = '(' then (.inside (.key (depth + 1) (c :: read)) d, [])
  else (.inside (.key depth (c :: read)) d, [])

/-- A character at a stage of a directive. -/
def next (d : Directive) (c : Char) : Stage → Move
  | .start =>
    if c = '%' then (.plain, [.lit '%'])
    else if c = '(' then (.inside (.key 0 []) d, [])
    else d.atFlags c
  | .key depth read => d.atKey depth read c
  | .flags => d.atFlags c
  | .widthDigits n =>
    match digit? c with
    | some m =>
      (.inside (.widthDigits (10 * n + m)) { d with width := some (.fixed (10 * n + m)) }, [])
    | none => d.atPoint c
  | .afterWidth => d.atPoint c
  | .precision => d.atPrecision c
  | .precisionDigits n =>
    match digit? c with
    | some m =>
      (.inside (.precisionDigits (10 * n + m)) { d with precision := some (.fixed (10 * n + m)) },
        [])
    | none => d.atSize c
  | .afterPrecision => d.atSize c
  | .conversion => d.ended c

end Directive

namespace Piece

/-- The piece that the end of a format leaves. -/
def unfinished : State → List Piece
  | .plain => []
  | .inside (.key _ _) _ => [openKey]
  | .inside _ d => [hole d .missing]

/-- One character of a format. -/
def move : State → Char → Move
  | .plain, c => if c = '%' then (.inside .start {}, []) else (.plain, [lit c])
  | .inside stage d, c => d.next c stage

/-- The pieces of a format that is read from a state on. -/
def scan (s : State) : List Char → List Piece
  | [] => unfinished s
  | c :: cs => (move s c).2 ++ scan (move s c).1 cs

/-- The pieces of a format. -/
def ofFormat (format : List Char) : List Piece :=
  scan .plain format

/-- A percent sign before an `s` is a directive of its own, and a doubled one stands for itself. -/
example :
    ofFormat "%s%%".toList = [hole {} (.conversion 's'), lit '%'] := by
  decide

end Piece

end Format

end CallLog
