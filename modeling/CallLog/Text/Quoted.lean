import CallLog.Text.Printable

/-!
# Quoted text

The display form of a text stands in single quotes, or in double quotes when it holds a single quote
and no double quote. Inside, the backslash and the enclosing quote are escaped, so are the line
feed, the carriage return and the tab; every other character that is not printable is written by its
code point in two, four or eight hexadecimal digits. Bytes are written like text, with a `b` in
front, and a byte outside printable ASCII takes two hexadecimal digits.
-/

namespace CallLog

namespace Text

/-- The last `width` hexadecimal digits of a number, in small letters. -/
def hex : Nat → Nat → List Char
  | 0, _ => []
  | width + 1, n => hex width (n / 16) ++ [Nat.digitChar (n % 16)]

/-- The quote that encloses a text. -/
def quoteFor (cs : List Char) : Char :=
  if cs.contains '\'' && !cs.contains '"' then '"' else '\''

/-- One character inside quotes. -/
def escapeChar (quote c : Char) : List Char :=
  if c = quote || c = '\\' then ['\\', c]
  else if c = '\n' then ['\\', 'n']
  else if c = '\r' then ['\\', 'r']
  else if c = '\t' then ['\\', 't']
  else if isPrintable c then [c]
  else if c.toNat < 0x100 then '\\' :: 'x' :: hex 2 c.toNat
  else if c.toNat < 0x10000 then '\\' :: 'u' :: hex 4 c.toNat
  else '\\' :: 'U' :: hex 8 c.toNat

/-- A text between the quotes that suit it. -/
def quote (cs : List Char) : List Char :=
  quoteFor cs :: cs.flatMap (escapeChar (quoteFor cs)) ++ [quoteFor cs]

/-- One byte inside quotes. -/
def escapeByte (quote : Char) (b : UInt8) : List Char :=
  if b.toNat < 0x80 then escapeChar quote (Char.ofNat b.toNat)
  else '\\' :: 'x' :: hex 2 b.toNat

/-- Bytes between quotes, with a `b` in front. -/
def quoteBytes (bs : List UInt8) : List Char :=
  let mark := quoteFor (bs.map fun b => Char.ofNat b.toNat)
  'b' :: mark :: bs.flatMap (escapeByte mark) ++ [mark]

/-- A text of letters, digits and spaces is quoted as it stands. -/
example : quote "audit log 7".toList = "'audit log 7'".toList := by
  decide

/-- A single quote alone turns the enclosing quotes into double ones. -/
example : quote "it's".toList = "\"it's\"".toList := by
  decide

end Text

end CallLog
