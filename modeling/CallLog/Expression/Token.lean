import CallLog.Expression
import CallLog.Text.Identifier
import CallLog.Text.Numeral

/-!
# Tokens

The text of an expression is cut into tokens: words, numbers, texts between quotation marks, and
symbols. Outside of brackets the end of a line is a token too, and a line must not be indented.
Comments, blanks and, inside brackets, the ends of lines say nothing.

`Token.scan` gives the tokens of a text, and nothing if a part of it is none.
-/

namespace CallLog

namespace Expression

/-- What the letters before a quotation mark say. -/
structure TextStyle where
  /-- whether a backslash stands for itself -/
  isRaw : Bool := false
  isBytes : Bool := false
  /-- whether the text has fields -/
  isJoined : Bool := false
  deriving Repr, DecidableEq

/-- A piece of the text of an expression. -/
inductive Token where
  | word (w : String)
  | number (c : Constant)
  /-- what stands between quotation marks, as it is written -/
  | text (style : TextStyle) (body : List Char)
  | symbol (s : String)
  /-- the end of a line -/
  | newline
  deriving Repr, DecidableEq

/-- Characters that are read, and what is left of the text. -/
abbrev Scanned (α : Type) := Option (α × List Char)

namespace Token

/-- The greatest number of brackets that may be open. -/
def nestingLimit : Nat := 200

/-- Whether a character may stand in a word, as far as a scanner can tell. -/
def isWordPart (c : Char) : Bool :=
  c.isAlphanum || c = '_' || 0x80 ≤ c.toNat

/-! ## Numbers -/

/-- Whether a text goes on with a word that may follow a number without a blank. -/
def followsNumber (cs : List Char) : Bool :=
  ["and", "else", "for", "if", "in", "is", "or", "not"].any fun w => w.toList.isPrefixOf cs

/-- Whether a number may end before some characters. -/
def mayEnd (cs : List Char) : Bool :=
  match cs with
  | c :: _ => !isWordPart c || followsNumber cs
  | [] => true

/-- Groups of digits with single underscores between them, and what follows. -/
def digitGroups (isDigit : Char → Bool) (fuel : Nat) (cs : List Char) : Scanned (List Char) :=
  match fuel with
  | 0 => none
  | fuel + 1 =>
    match cs.takeWhile isDigit, cs.dropWhile isDigit with
    | [], _ => none
    | ds, '_' :: rest => (digitGroups isDigit fuel rest).map fun (more, rest) => (ds ++ more, rest)
    | ds, rest => some (ds, rest)

/-- Groups of decimal digits. -/
def decimalGroups (cs : List Char) : Scanned (List Char) :=
  digitGroups Char.isDigit (cs.length + 1) cs

/-- The value of a digit in a base of at most sixteen. -/
def digitValue (c : Char) : Nat :=
  if c.isDigit then c.toNat - '0'.toNat else c.toLower.toNat - 'a'.toNat + 10

/-- A number in a base after its mark. -/
def inBase (base : Nat) (cs : List Char) : Scanned Constant :=
  let isDigit (c : Char) : Bool := c.isAlphanum && digitValue c < base
  let cs := match cs with
    | '_' :: rest => rest
    | cs => cs
  match digitGroups isDigit (cs.length + 1) cs with
  | some (ds, rest) =>
    if mayEnd rest && !(rest.head?.any Char.isDigit) then
      some (.int (ds.foldl (fun n d => base * n + digitValue d) 0), rest)
    else none
  | none => none

/-- The exponent of a number, if there is one; `none` if it breaks off. -/
def exponent (cs : List Char) : Scanned Bool :=
  match cs with
  | e :: rest =>
    if e = 'e' || e = 'E' then
      match rest with
      | sign :: after =>
        if sign = '+' || sign = '-' then (decimalGroups after).map fun (_, rest) => (true, rest)
        else if sign.isDigit then (decimalGroups rest).map fun (_, rest) => (true, rest)
        else if mayEnd cs then some (false, cs) else none
      | [] => none
    else some (false, cs)
  | [] => some (false, [])

/-- A number whose whole part is read, with a fraction or an exponent if there are some. `whole` is
the value of the number without them; there is none if digits after zeros ask for them. -/
def afterWhole (whole : Option Nat) (cs : List Char) : Scanned Constant :=
  match fraction cs with
  | none => none
  | some (hasPoint, cs) =>
    match exponent cs with
    | none => none
    | some (hasExponent, cs) =>
      match cs with
      | c :: rest =>
        if c = 'j' || c = 'J' then if mayEnd rest then some (.imaginary, rest) else none
        else if mayEnd cs then ended whole (hasPoint || hasExponent) cs
        else none
      | [] => ended whole (hasPoint || hasExponent) []
where
  /-- The point of a number and the digits after it, if there is a point. -/
  fraction : List Char → Scanned Bool
    | '.' :: rest =>
      if rest.head?.any Char.isDigit then (decimalGroups rest).map fun (_, rest) => (true, rest)
      else some (true, rest)
    | cs => some (false, cs)
  /-- The number that ends. -/
  ended (whole : Option Nat) (isFloat : Bool) (cs : List Char) : Scanned Constant :=
    if isFloat then some (.float, cs) else whole.map fun n => (.int n, cs)

/-- A number that begins with a digit. Digits may follow zeros only in front of a fraction, an
exponent or the mark of an imaginary number, and an integer may not be too long. -/
def numeral (cs : List Char) : Scanned Constant :=
  match cs with
  | '0' :: 'x' :: rest | '0' :: 'X' :: rest => inBase 16 rest
  | '0' :: 'o' :: rest | '0' :: 'O' :: rest => inBase 8 rest
  | '0' :: 'b' :: rest | '0' :: 'B' :: rest => inBase 2 rest
  | cs =>
    match decimalGroups cs with
    | none => none
    | some (ds, rest) =>
      let significant := ds.dropWhile (· = '0')
      let isPlain := significant.isEmpty || ds.head? ≠ some '0'
      let isShort := significant.length ≤ Text.digitLimit
      afterWhole (if isPlain && isShort then some (Text.valueOf significant) else none) rest

/-! ## Texts -/

/-- The style that a further letter before a quotation mark gives. -/
def addLetter (style : Option (TextStyle × Bool)) (c : Char) : Option (TextStyle × Bool) :=
  match style with
  | none => none
  | some (s, hasU) =>
    let c := c.toLower
    if c = 'b' && !s.isBytes && !hasU && !s.isJoined then some ({ s with isBytes := true }, hasU)
    else if c = 'u' && !s.isBytes && !hasU && !s.isRaw && !s.isJoined then some (s, true)
    else if c = 'r' && !s.isRaw && !hasU then some ({ s with isRaw := true }, hasU)
    else if c = 'f' && !s.isJoined && !s.isBytes && !hasU then
      some ({ s with isJoined := true }, hasU)
    else none

/-- The style that some letters before a quotation mark say. -/
def styleOf? (letters : List Char) : Option TextStyle :=
  (letters.foldl addLetter (some ({}, false))).map Prod.fst

/-- What stands before the closing quotation mark of a text on one line. The character after a
backslash does not close it. -/
def lineBody (quote : Char) : List Char → Scanned (List Char)
  | [] => none
  | '\\' :: c :: rest => (lineBody quote rest).map fun (body, rest) => ('\\' :: c :: body, rest)
  | c :: rest =>
    if c = quote then some ([], rest)
    else if c = '\n' then none
    else (lineBody quote rest).map fun (body, rest) => (c :: body, rest)

/-- What stands before three closing quotation marks. -/
def blockBody (quote : Char) : List Char → Scanned (List Char)
  | [] => none
  | '\\' :: c :: rest => (blockBody quote rest).map fun (body, rest) => ('\\' :: c :: body, rest)
  | c :: rest =>
    if c = quote && [quote, quote].isPrefixOf rest then some ([], rest.drop 2)
    else (blockBody quote rest).map fun (body, rest) => (c :: body, rest)

/-- What stands between quotation marks, the first of which is read. -/
def body (quote : Char) (cs : List Char) : Scanned (List Char) :=
  match cs with
  | c :: d :: rest => if c = quote && d = quote then blockBody quote rest else lineBody quote cs
  | cs => lineBody quote cs

/-! ## Words and symbols -/

/-- A word, or a text whose style it says. -/
def wordOrText (cs : List Char) : Scanned Token :=
  match cs.takeWhile isWordPart, cs.dropWhile isWordPart with
  | w, quote :: rest =>
    if quote = '"' || quote = '\'' then
      match styleOf? w with
      | some style => (body quote rest).map fun (b, rest) => (.text style b, rest)
      | none => if Text.isIdentifier w then some (.word (String.ofList w), quote :: rest) else none
    else if Text.isIdentifier w then some (.word (String.ofList w), quote :: rest)
    else none
  | w, [] => if Text.isIdentifier w then some (.word (String.ofList w), []) else none

/-- The symbols, the longer ones first. -/
def symbols : List String :=
  ["...", "**=", "//=", "<<=", ">>=", "**", "//", "<<", ">>", "<=", ">=", "==", "!=", "<>", "->",
   ":=", "+=", "-=", "*=", "/=", "%=", "&=", "|=", "^=", "@=", "(", ")", "[", "]", "\x7b", "\x7d",
   ",", ":", ".", ";", "@", "=", "+", "-", "*", "/", "%", "&", "|", "^", "~", "<", ">"]

/-- The symbol that a text begins with. -/
def symbol? (cs : List Char) : Scanned String :=
  (symbols.find? fun s => s.toList.isPrefixOf cs).map fun s => (s, cs.drop s.length)

/-- The bracket that closes another one. -/
def closing? : String → Option String
  | "(" => some ")"
  | "[" => some "]"
  | "\x7b" => some "\x7d"
  | _ => none

/-- The brackets that are to be closed after a symbol; nothing if it closes the wrong one. -/
def afterSymbol (pending : List String) (s : String) : Option (List String) :=
  match closing? s with
  | some close => if pending.length < nestingLimit then some (close :: pending) else none
  | none =>
    if [")", "]", "\x7d"].contains s then
      match pending with
      | p :: rest => if p = s then some rest else none
      | [] => none
    else some pending

/-! ## Lines -/

/-- What follows the blanks and the continued lines at the beginning of a line, and whether the line
is indented. A form feed begins the line anew; what comes before the first continuation counts. -/
def indentation : Nat → Nat → List Char → Scanned Bool
  | column, fixed, ' ' :: rest => indentation (column + 1) fixed rest
  | column, fixed, '\t' :: rest => indentation (column + 1) fixed rest
  | _, fixed, '\x0c' :: rest => indentation 0 fixed rest
  | column, fixed, '\\' :: '\n' :: c :: rest =>
    indentation column (if fixed = 0 then column else fixed) (c :: rest)
  | _, _, '\\' :: _ => none
  | column, fixed, cs => some ((if fixed = 0 then column else fixed) ≠ 0, cs)

/-- Whether a character is a blank inside a line. -/
def isBlank (c : Char) : Bool :=
  c = ' ' || c = '\t' || c = '\x0c'

/-- The token that some characters begin with, none of them blank. -/
def one (cs : List Char) : Scanned Token :=
  match cs with
  | [] => none
  | c :: rest =>
    if c.isDigit then (numeral cs).map fun (n, rest) => (.number n, rest)
    else if c = '.' && rest.head?.any Char.isDigit then
      (afterWhole none cs).map fun (n, rest) => (.number n, rest)
    else if c = '"' || c = '\'' then
      (body c rest).map fun (b, rest) => (.text {} b, rest)
    else if isWordPart c then wordOrText cs
    else (symbol? cs).map fun (s, rest) => (.symbol s, rest)

/-- The tokens of a text. The list holds the brackets that are to be closed, the number bounds the
length of the text. -/
def scanWithin : Nat → Bool → List String → List Char → Option (List Token)
  | 0, _, _, _ => none
  | fuel + 1, true, pending, cs =>
    match indentation 0 0 cs with
    | none => none
    | some (_, '\n' :: rest) => scanWithin fuel true pending rest
    | some (_, '#' :: rest) => scanWithin fuel true pending (rest.dropWhile (· ≠ '\n'))
    | some (isIndented, rest) => if isIndented then none else scanWithin fuel false pending rest
  | fuel + 1, false, pending, cs =>
    match cs.dropWhile isBlank with
    | [] => some []
    | '#' :: rest => scanWithin fuel false pending (rest.dropWhile (· ≠ '\n'))
    | '\n' :: rest =>
      if pending.isEmpty then (scanWithin fuel true [] rest).map (.newline :: ·)
      else scanWithin fuel false pending rest
    | '\\' :: '\n' :: c :: rest => scanWithin fuel false pending (c :: rest)
    | '\\' :: _ => none
    | cs =>
      match one cs with
      | some (.symbol s, rest) =>
        match afterSymbol pending s with
        | some pending => (scanWithin fuel false pending rest).map (.symbol s :: ·)
        | none => none
      | some (token, rest) => (scanWithin fuel false pending rest).map (token :: ·)
      | none => none

/-- A text with all its lines ended by the same character. -/
def lines : List Char → List Char
  | '\r' :: '\n' :: cs => '\n' :: lines cs
  | '\r' :: cs => '\n' :: lines cs
  | c :: cs => c :: lines cs
  | [] => []

/-- The tokens of a text. -/
def scan (cs : List Char) : Option (List Token) :=
  scanWithin (2 * cs.length + 2) true [] (lines cs)

end Token

end Expression

end CallLog
