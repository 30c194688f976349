import CallLog.Format.Directive
import CallLog.Text.Numeral

/-!
# Numbers in percent formats

How the conversions of a percent format write a number: in base ten, eight or sixteen, with at least
as many digits as the precision says, or as a fraction or with an exponent. A number that is written
as a fraction is first rounded to 53 binary digits; ties go to the even neighbour.

`Written` keeps the sign and the mark of the base apart from the digits, so that zeros can be filled
in between.
-/

namespace CallLog

namespace Format

/-- A number as it is written. -/
structure Written where
  isNegative : Bool
  /-- the mark of the base -/
  mark : List Char := []
  body : List Char
  deriving Repr, DecidableEq

/-- Digits with zeros before them, up to a number of digits. -/
def zeroed (count : Nat) (digits : List Char) : List Char :=
  List.replicate (count - digits.length) '0' ++ digits

/-- A character as a capital letter. -/
def capital (c : Char) : Char := c.toUpper

/-- An integer in base ten. -/
def Written.decimal (i : Int) (precision : Nat) : Written :=
  { isNegative := i < 0, body := zeroed precision (Text.digits i.natAbs) }

/-- An integer in a base with a mark. -/
def Written.inBase (base : Nat) (mark : List Char) (isMarked : Bool) (precision : Nat) (i : Int) :
    Written :=
  { isNegative := i < 0
    mark := if isMarked then mark else []
    body := zeroed precision (Nat.toDigits base i.natAbs) }

/-- A written number in capital letters. -/
def Written.capitals (w : Written) : Written :=
  { w with mark := w.mark.map capital, body := w.body.map capital }

/-! ## Rounding -/

/-- A quotient rounded to the nearest integer, a tie to the even one. -/
def roundedQuotient (n k : Nat) : Nat :=
  let q := n / k
  let r := n % k
  if 2 * r < k then q else if k < 2 * r then q + 1 else if q % 2 = 0 then q else q + 1

/-- A number rounded to 53 binary digits. -/
def roundedTo53 (n : Nat) : Nat :=
  let excess := n.log2 - 52
  if n.log2 ≤ 52 then n else roundedQuotient n (Nat.pow 2 excess) * Nat.pow 2 excess

/-- The least number that is too large to be rounded to a number with an exponent of eleven binary
digits. -/
def floatLimit : Nat := Nat.pow 2 1024

/-- The digits of a number rounded to some digits, and the exponent of the first one. -/
def scientific (n count : Nat) : List Char × Nat :=
  let digits := Text.digits n
  if digits.length ≤ count then
    (digits ++ List.replicate (count - digits.length) '0', digits.length - 1)
  else
    let excess := digits.length - count
    let rounded := Text.digits (roundedQuotient n (Nat.pow 10 excess))
    if rounded.length ≤ count then (rounded, digits.length - 1)
    else (rounded.take count, digits.length)

/-! ## Fractions and exponents -/

/-- Digits after a point; the point is left out where no digits follow, unless it is kept. -/
def fraction (isKept : Bool) (digits : List Char) : List Char :=
  if digits.isEmpty && !isKept then [] else '.' :: digits

/-- A number as a fraction. -/
def fixedText (isKept : Bool) (places n : Nat) : List Char :=
  Text.digits n ++ fraction isKept (List.replicate places '0')

/-- Digits with an exponent after them. -/
def exponentText (isKept : Bool) (digits : List Char) (exponent : Nat) : List Char :=
  digits.take 1 ++ fraction isKept (digits.drop 1) ++ 'e' :: '+' :: zeroed 2 (Text.digits exponent)

/-- Digits without the zeros at their end. -/
def trimmed (digits : List Char) : List Char :=
  (digits.reverse.dropWhile (· = '0')).reverse

/-- A number as a fraction or with an exponent, whichever suits its size. -/
def generalText (isKept : Bool) (precision n : Nat) : List Char :=
  let count := max precision 1
  let (digits, exponent) := scientific n count
  if exponent < count then
    if isKept then Text.digits n ++ '.' :: List.replicate (count - 1 - exponent) '0'
    else Text.digits n
  else if isKept then exponentText true digits exponent
  else exponentText false (digits.take 1 ++ trimmed (digits.drop 1)) exponent

/-- The text of a number for one of the conversions `e`, `f` and `g`. -/
def floatText (conversion : Char) (isKept : Bool) (precision n : Nat) : List Char :=
  if conversion = 'f' then fixedText isKept precision n
  else if conversion = 'e' then
    let (digits, exponent) := scientific n (precision + 1)
    exponentText isKept digits exponent
  else generalText isKept precision n

/-! ## Width -/

/-- The sign that a number shows. -/
def signOf (flags : Flags) (isNegative : Bool) : List Char :=
  if isNegative then ['-']
  else if flags.hasPlus then ['+']
  else if flags.hasBlank then [' ']
  else []

/-- A text filled up to a width with blanks. -/
def padded (flags : Flags) (width : Nat) (cs : List Char) : List Char :=
  let blanks := List.replicate (width - cs.length) ' '
  if flags.isLeft then cs ++ blanks else blanks ++ cs

/-- A number filled up to a width, with zeros between its sign and its digits if a flag says so. -/
def Written.padded (flags : Flags) (width : Nat) (w : Written) : List Char :=
  let sign := signOf flags w.isNegative
  if flags.isZeroed && !flags.isLeft then
    sign ++ w.mark ++ zeroed (width - (sign ++ w.mark).length) w.body
  else Format.padded flags width (sign ++ w.mark ++ w.body)

end Format

end CallLog
