import CallLog.Document

/-!
# The text of documents

Documents are written as JSON text and read from it. Between the parts of a text there may be
blanks. What is written has none, and of the characters in a text only the quotation mark, the
backslash and the control characters are written by escapes.
-/

namespace CallLog

namespace Document

/-! ## Writing -/

/-- One character between quotation marks. -/
def escape (c : Char) : List Char :=
  if c = '"' || c = '\\' then ['\\', c]
  else if c.toNat < 0x20 || c.toNat = 0x7F then '\\' :: 'u' :: Text.hex 4 c.toNat
  else [c]

/-- A text between quotation marks. -/
def quote (s : String) : List Char :=
  '"' :: s.toList.flatMap escape ++ ['"']

mutual

/-- The text of a document. -/
def write : Document → List Char
  | null => "null".toList
  | bool b => (if b then "true" else "false").toList
  | int i => (toString i).toList
  | str s => quote s
  | array items => '[' :: writeItems items ++ [']']
  | object fields => '\x7b' :: writeFields fields ++ ['\x7d']

/-- The texts of some documents, separated by commas. -/
def writeItems : List Document → List Char
  | [] => []
  | [d] => write d
  | d :: ds => write d ++ ',' :: writeItems ds

/-- The texts of some fields, separated by commas. -/
def writeFields : List (String × Document) → List Char
  | [] => []
  | [(name, d)] => quote name ++ ':' :: write d
  | (name, d) :: rest => quote name ++ ':' :: write d ++ ',' :: writeFields rest

end

/-! ## Reading -/

/-- The text after the blanks at its beginning. -/
def skip (cs : List Char) : List Char :=
  cs.dropWhile fun c => c = ' ' || c = '\n' || c = '\t' || c = '\r'

/-- The value of a hexadecimal digit. -/
def hexValue (c : Char) : Nat :=
  if '0' ≤ c && c ≤ '9' then c.toNat - '0'.toNat
  else if 'a' ≤ c && c ≤ 'f' then c.toNat - 'a'.toNat + 10
  else if 'A' ≤ c && c ≤ 'F' then c.toNat - 'A'.toNat + 10
  else 0

/-- The number that some hexadecimal digits stand for. -/
def hexNumber (cs : List Char) : Nat :=
  cs.foldl (fun n c => 16 * n + hexValue c) 0

/-- The character that an escaped letter stands for. -/
def unescape : Char → Char
  | 'n' => '\n'
  | 't' => '\t'
  | 'r' => '\r'
  | 'b' => '\x08'
  | 'f' => '\x0c'
  | c => c

/-- The character that two halves of a surrogate pair stand for. -/
def pairChar (high low : Nat) : Char :=
  Char.ofNat (0x10000 + (high - 0xD800) * 0x400 + (low - 0xDC00))

/-- The character that a text inside quotation marks begins with, and what follows it. -/
def readChar : List Char → Option (Char × List Char)
  | '\\' :: 'u' :: a :: b :: c :: d :: rest =>
    let n := hexNumber [a, b, c, d]
    match rest with
    | '\\' :: 'u' :: a' :: b' :: c' :: d' :: more =>
      if 0xD800 ≤ n && n < 0xDC00 then some (pairChar n (hexNumber [a', b', c', d']), more)
      else some (Char.ofNat n, rest)
    | rest => some (Char.ofNat n, rest)
  | '\\' :: c :: rest => some (unescape c, rest)
  | c :: rest => some (c, rest)
  | [] => none

/-- Reads a text up to the closing quotation mark. The number bounds its length, and the list holds
what was read, backwards. -/
def readText : Nat → List Char → List Char → Option (String × List Char)
  | 0, _, _ => none
  | fuel + 1, read, cs =>
    match cs with
    | '"' :: rest => some (String.ofList read.reverse, rest)
    | cs =>
      match readChar cs with
      | some (c, rest) => readText fuel (c :: read) rest
      | none => none

/-- Reads a number. -/
def readNumber (cs : List Char) : Option (Document × List Char) :=
  let (sign, cs) := Text.splitSign cs
  match cs.takeWhile Text.isDigit with
  | [] => none
  | ds => some (int (sign * Text.valueOf ds), cs.dropWhile Text.isDigit)

mutual

/-- Reads a document; the number bounds how long its parts are. -/
def readWithin : Nat → List Char → Option (Document × List Char)
  | 0, _ => none
  | fuel + 1, cs =>
    match skip cs with
    | 'n' :: 'u' :: 'l' :: 'l' :: rest => some (null, rest)
    | 't' :: 'r' :: 'u' :: 'e' :: rest => some (bool true, rest)
    | 'f' :: 'a' :: 'l' :: 's' :: 'e' :: rest => some (bool false, rest)
    | '"' :: rest => (readText (fuel + 1) [] rest).map fun (s, rest) => (str s, rest)
    | '[' :: rest => (readItems fuel rest).map fun (items, rest) => (array items, rest)
    | '\x7b' :: rest => (readFields fuel rest).map fun (fields, rest) => (object fields, rest)
    | cs => readNumber cs

/-- Reads documents up to the closing bracket. -/
def readItems : Nat → List Char → Option (List Document × List Char)
  | 0, _ => none
  | fuel + 1, cs =>
    match skip cs with
    | ']' :: rest => some ([], rest)
    | ',' :: rest => readItems fuel rest
    | cs => do
      let (d, rest) ← readWithin fuel cs
      let (ds, rest) ← readItems fuel rest
      return (d :: ds, rest)

/-- Reads fields up to the closing brace. -/
def readFields : Nat → List Char → Option (List (String × Document) × List Char)
  | 0, _ => none
  | fuel + 1, cs =>
    match skip cs with
    | '\x7d' :: rest => some ([], rest)
    | ',' :: rest => readFields fuel rest
    | '"' :: rest => do
      let (name, rest) ← readText (fuel + 1) [] rest
      match skip rest with
      | ':' :: rest =>
        let (d, rest) ← readWithin fuel rest
        let (fields, rest) ← readFields fuel rest
        return ((name, d) :: fields, rest)
      | _ => none
    | _ => none

end

/-- The document that a text begins with. -/
def read? (s : String) : Option Document :=
  (readWithin (s.length + 1) s.toList).map Prod.fst

/-! ## Parts -/

/-- The field of a name. -/
def field? (d : Document) (name : String) : Option Document :=
  match d with
  | object fields => fields.lookup name
  | _ => none

/-- The field of a name, unless it is missing or null. -/
def given? (d : Document) (name : String) : Option Document :=
  match d.field? name with
  | some null | none => none
  | some found => some found

mutual

/-- The value that a document is. -/
def toValue : Document → Value
  | null => .none
  | bool b => .bool b
  | int i => .int i
  | str s => .str s
  | array items => .list (toValues items)
  | object fields => .dict (toEntries fields)

/-- The values that some documents are. -/
def toValues : List Document → List Value
  | [] => []
  | d :: ds => toValue d :: toValues ds

/-- The entries that some fields are. -/
def toEntries : List (String × Document) → List (Value × Value)
  | [] => []
  | (name, d) :: rest => (.str name, toValue d) :: toEntries rest

end

end Document

end CallLog
