import CallLog.Expression.Token

/-!
# Texts in expressions

What stands between the quotation marks of a text is read here. A backslash begins an escape: a
character by its number or by its name, a blank of some kind, or the end of a line that is left out.
A backslash that begins no escape stands for itself.

A text with fields is cut into `TextPart`s: characters, and fields between braces. A field holds the
source of an expression, how its value is converted, and a format, which may have fields itself. A
brace that is written twice stands for itself, except in a format.
-/

namespace CallLog

namespace Expression

/-- A part of a text with fields. -/
inductive TextPart where
  | literal (cs : List Char)
  /-- a field: the source of its expression, how it is converted, and its format -/
  | field (source : List Char) (conversion : Option Char) (format : List TextPart)
  deriving Repr, Inhabited

namespace Literal

/-! ## Escapes -/

/-- Whether a character is a digit in base sixteen. -/
def isHex (c : Char) : Bool :=
  c.isAlphanum && Token.digitValue c < 16

/-- Whether a character is a digit in base eight. -/
def isOctal (c : Char) : Bool :=
  c.isDigit && Token.digitValue c < 8

/-- The number that some digits are. -/
def valueIn (base : Nat) (ds : List Char) : Nat :=
  ds.foldl (fun n d => base * n + Token.digitValue d) 0

/-- The character of a number; one in place of the numbers that belong to no character. -/
def character (n : Nat) : Char :=
  if n.isValidChar then Char.ofNat n else '\ufffd'

/-- The character that an escape with some digits in base sixteen is. -/
def byNumber? (width : Nat) (cs : List Char) : Option Char :=
  let ds := (cs.take width).takeWhile isHex
  let n := valueIn 16 ds
  if ds.length = width && n < 0x110000 then some (character n) else none

/-- The character of a name. Only the letters are known by name. -/
def byName? (name : List Char) : Option Char :=
  match (String.ofList (name.map Char.toUpper)).splitOn " " with
  | ["LATIN", "SMALL", "LETTER", l] => letter? l.toLower
  | ["LATIN", "CAPITAL", "LETTER", l] => letter? l
  | _ => none
where
  /-- The letter that is the only one of a text. -/
  letter? (l : String) : Option Char :=
    match l.toList with
    | [c] => if c.isAlpha then some c else none
    | _ => none

/-- The blank or other character that a letter after a backslash stands for. -/
def short? : Char → Option Char
  | '\\' => some '\\'
  | '\'' => some '\''
  | '"' => some '"'
  | 'a' => some '\x07'
  | 'b' => some '\x08'
  | 'f' => some '\x0c'
  | 'n' => some '\n'
  | 'r' => some '\r'
  | 't' => some '\t'
  | 'v' => some '\x0b'
  | _ => none

/-- The characters that an escape stands for, and the number of characters it has after the
backslash. -/
def escape? (isBytes : Bool) (c : Char) (rest : List Char) : Option (List Char × Nat) :=
  let numbered (width : Nat) := (byNumber? width rest).map fun d => ([d], width + 1)
  if c = '\n' then some ([], 1)
  else if isOctal c then
    let ds := ((c :: rest).take 3).takeWhile isOctal
    some ([character (valueIn 8 ds)], ds.length)
  else if c = 'x' then numbered 2
  else if c = 'u' && !isBytes then numbered 4
  else if c = 'U' && !isBytes then numbered 8
  else if c = 'N' && !isBytes then
    match rest with
    | '\x7b' :: after =>
      let name := after.takeWhile (· ≠ '\x7d')
      if name.length < after.length then (byName? name).map fun d => ([d], name.length + 3)
      else none
    | _ => none
  else
    match short? c with
    | some d => some ([d], 1)
    | none => some (['\\', c], 1)

/-- A text with the escapes in it read. The number says how many characters of an escape are left
out before the text goes on. -/
def unescape (isBytes : Bool) : Nat → List Char → Option (List Char)
  | _, [] => some []
  | n + 1, _ :: cs => unescape isBytes n cs
  | 0, '\\' :: c :: cs =>
    match escape? isBytes c cs with
    | some (ds, n) => (unescape isBytes n (c :: cs)).map (ds ++ ·)
    | none => none
  | 0, c :: cs => (unescape isBytes 0 cs).map (c :: ·)

/-- The characters of a text. -/
def characters? (style : TextStyle) (body : List Char) : Option (List Char) :=
  if style.isBytes && body.any (fun c => 0x80 ≤ c.toNat) then none
  else if style.isRaw then some body
  else unescape style.isBytes 0 body

/-! ## Fields -/

/-- The characters up to the next field, whether they end with the first of two equal braces, and
what follows. In a format a brace is never written twice. The second truth value says whether the
characters stand inside the name of an escape. -/
def upToField ( isRaw inFormat : Bool) : Bool → List Char →
    Option (List Char × Bool × List Char)
  | _, [] => some ([], false, [])
  | true, c :: cs => consume c (upToField isRaw inFormat (c ≠ '\x7d') cs)
  | false, '\\' :: cs =>
    match cs with
    | 'N' :: '\x7b' :: after =>
      if isRaw then consume '\\' (upToField isRaw inFormat false ('N' :: '\x7b' :: after))
      else consume '\\' (consume 'N' (consume '\x7b' (upToField isRaw inFormat true after)))
    | c :: after =>
      if isRaw || c = '\x7b' || c = '\x7d' then
        consume '\\' (upToField isRaw inFormat false (c :: after))
      else consume '\\' (consume c (upToField isRaw inFormat false after))
    | [] => some (['\\'], false, [])
  | false, c :: cs =>
    if c ≠ '\x7b' && c ≠ '\x7d' then consume c (upToField isRaw inFormat false cs)
    else if inFormat then some ([], false, c :: cs)
    else if cs.head? = some c then some ([c], true, cs.drop 1)
    else if c = '\x7d' then none
    else some ([], false, c :: cs)
termination_by _ cs => cs.length
where
  /-- A character in front of others. -/
  consume (c : Char) : Option (List Char × Bool × List Char) → Option (List Char × Bool × List Char)
    | some (taken, isDoubled, rest) => some (c :: taken, isDoubled, rest)
    | none => none

/-- The bracket that closes another one. -/
def closing? : Char → Option Char
  | '(' => some ')'
  | '[' => some ']'
  | '\x7b' => some '\x7d'
  | _ => none

/-- The source of an expression up to what ends it, and what follows. Neither a backslash nor a
comment may stand in it. The text in quotation marks that is being read is given by its mark and by
whether it is one of three; the list holds the brackets that are to be closed. -/
def upToEnd : Option (Char × Bool) → List Char → List Char → Option (List Char × List Char)
  | _, _, [] => none
  | quote, pending, c :: cs =>
    if c = '\\' then none
    else
      match quote with
      | some (q, isTriple) =>
        if c ≠ q then consume [c] (upToEnd quote pending cs)
        else if !isTriple then consume [c] (upToEnd none pending cs)
        else if [q, q].isPrefixOf cs then consume [q, q, q] (upToEnd none pending (cs.drop 2))
        else consume [c] (upToEnd quote pending cs)
      | none =>
        if c = '"' || c = '\'' then
          if [c, c].isPrefixOf cs then
            consume [c, c, c] (upToEnd (some (c, true)) pending (cs.drop 2))
          else consume [c] (upToEnd (some (c, false)) pending cs)
        else if c = '#' then none
        else
          match closing? c with
          | some close =>
            if pending.length < Token.nestingLimit then
              consume [c] (upToEnd none (close :: pending) cs)
            else none
          | none =>
            if pending.isEmpty && ['!', ':', '\x7d', '=', '<', '>'].contains c then
              if cs.head? = some '=' && c ≠ ':' && c ≠ '\x7d' then
                consume [c, '='] (upToEnd none [] (cs.drop 1))
              else if c = '<' || c = '>' then consume [c] (upToEnd none [] cs)
              else some ([], c :: cs)
            else if [')', ']', '\x7d'].contains c then
              match pending with
              | p :: pending => if p = c then consume [c] (upToEnd none pending cs) else none
              | [] => none
            else consume [c] (upToEnd none pending cs)
termination_by _ _ cs => cs.length
where
  /-- Some characters in front of others. -/
  consume (cs : List Char) : Option (List Char × List Char) → Option (List Char × List Char)
    | some (taken, rest) => some (cs ++ taken, rest)
    | none => none

/-- Whether a character says nothing between the parts of an expression. -/
def isSpace (c : Char) : Bool :=
  c = ' ' || c = '\t' || c = '\n' || c = '\x0c'

/-- The source of a field that is shown with its value, and what follows; nothing in its place if
only the value is shown. -/
def shownSource (source : List Char) : List Char → List Char × List Char
  | '=' :: cs =>
    let isBlank (c : Char) : Bool := isSpace c || c = '\r' || c = '\x0b'
    (source ++ '=' :: cs.takeWhile isBlank, cs.dropWhile isBlank)
  | cs => ([], cs)

/-- How the value of a field is converted, and what follows. -/
def conversion : List Char → Option (Option Char × List Char)
  | '!' :: c :: cs => if ['s', 'r', 'a'].contains c then some (some c, cs) else none
  | ['!'] => none
  | cs => some (none, cs)

/-- A part for some characters, if there are any. -/
def literalParts (cs : List Char) : List TextPart :=
  if cs.isEmpty then [] else [.literal cs]

mutual

/-- The parts of a text with fields, and what follows: the brace after a format. The first number
bounds the length of the text, the second one says in how many fields the text stands. -/
def parts (isRaw : Bool) : Nat → Nat → List Char → Option (List TextPart × List Char)
  | 0, _, _ => none
  | fuel + 1, level, cs =>
    match upToField isRaw (level ≠ 0) false cs with
    | none => none
    | some (taken, isDoubled, rest) =>
      match if isRaw then some taken else unescape false 0 taken with
      | none => none
      | some taken =>
        match isDoubled, rest with
        | false, '\x7b' :: after => do
          let (piece, rest) ← field isRaw fuel level after
          let (more, rest) ← parts isRaw fuel level rest
          return (literalParts taken ++ piece ++ more, rest)
        | true, rest => do
          let (more, rest) ← parts isRaw fuel level rest
          return (literalParts taken ++ more, rest)
        | false, rest => some (literalParts taken, rest)

/-- A field whose first brace is read, with its source in front if that is shown, and what
follows. -/
def field (isRaw : Bool) : Nat → Nat → List Char → Option (List TextPart × List Char)
  | 0, _, _ => none
  | fuel + 1, level, cs =>
    if 2 ≤ level then none
    else do
      let (source, rest) ← upToEnd none [] cs
      if source.all isSpace then none
      else
        let (echo, rest) := shownSource source rest
        let (conversion, rest) ← conversion rest
        match rest with
        | ':' :: after => do
          let (format, rest) ← parts isRaw fuel (level + 1) after
          match rest with
          | '\x7d' :: rest => some (literalParts echo ++ [.field source conversion format], rest)
          | _ => none
        | '\x7d' :: rest =>
          let conversion := if echo.isEmpty then conversion else conversion.orElse fun _ => 'r'
          some (literalParts echo ++ [.field source conversion []], rest)
        | _ => none

end

/-- The parts of a text with fields. -/
def parts? (isRaw : Bool) (body : List Char) : Option (List TextPart) :=
  match parts isRaw (4 * body.length + 4) 0 body with
  | some (ps, []) => some ps
  | _ => none

end Literal

end Expression

end CallLog
