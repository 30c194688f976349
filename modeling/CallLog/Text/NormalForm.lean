import CallLog.Text.Decomposition

/-!
# Normal forms of identifiers

Identifiers that differ only in how their characters are put together, or in the width or style of
their letters, are the same identifier. The normal form of an identifier takes all its characters
apart, orders the marks on each letter by their classes, and puts letters and marks together again
as far as there are characters for that. An identifier of ASCII characters is its own normal form.
-/

namespace CallLog

namespace Text

/-- What belongs to the code points of a range: for the first one, some code points, from which the
others follow in step. -/
structure Range where
  first : Nat
  last : Nat
  image : List Nat
  deriving Repr, DecidableEq

namespace Range

/-- Whether a code point is in the range. -/
def contains (r : Range) (n : Nat) : Bool :=
  r.first ≤ n && n ≤ r.last

/-- The value of a digit in a base of at most sixteen. -/
def digitValue (c : Char) : Nat :=
  if c.isDigit then c.toNat - '0'.toNat else c.toNat - 'A'.toNat + 10

/-- The number that some digits stand for. -/
def number (base : Nat) (ds : List Char) : Nat :=
  ds.foldl (fun n d => base * n + digitValue d) 0

/-- The parts of a text between separators. -/
def parts (isSeparator : Char → Bool) : List Char → List (List Char)
  | [] => [[]]
  | c :: cs =>
    match parts isSeparator cs with
    | part :: rest => if isSeparator c then [] :: part :: rest else (c :: part) :: rest
    | [] => [[c]]

/-- The range of an entry of a table whose images are written in a base. -/
def ofPair? (base : Nat) (entry : List Char) : Option Range :=
  match parts (· = ':') entry with
  | [range, image] =>
    let numbers := (parts (· = '+') image).map (number base)
    match (parts (· = '-') range).map (number 16) with
    | [n] => some ⟨n, n, numbers⟩
    | [first, last] => some ⟨first, last, numbers⟩
    | _ => none
  | _ => none

/-- The ranges of a table whose images are written in a base. -/
def table (base : Nat) (text : String) : List Range :=
  (parts (fun c => c = ' ' || c = '\n') text.toList).filterMap (ofPair? base)

/-- What belongs to a code point in a table. -/
def find? (n : Nat) (ranges : List Range) : Option (List Nat) :=
  (ranges.find? (contains · n)).map fun r =>
    match r.image with
    | [m] => [m + (n - r.first)]
    | image => image

end Range

/-- The code points that are put together from two others. -/
def pairTable : List Range := Range.table 16 pairText

/-- The other code points that are taken apart. -/
def plainTable : List Range := Range.table 16 plainText

/-- The classes of the marks. -/
def markTable : List Range := Range.table 10 markText

/-- The class of a mark; zero for what is no mark. -/
def markClass (n : Nat) : Nat :=
  match markTable.find? (Range.contains · n) with
  | some ⟨_, _, [k]⟩ => k
  | _ => 0

/-! ## Korean syllables -/

/-- The letters of a Korean syllable. -/
def syllableLetters? (n : Nat) : Option (List Nat) :=
  if 0xAC00 ≤ n && n ≤ 0xD7A3 then
    let i := n - 0xAC00
    let ending := if i % 28 = 0 then [] else [0x11A7 + i % 28]
    some ([0x1100 + i / 588, 0x1161 + i % 588 / 28] ++ ending)
  else none

/-- The Korean syllable that two letters, or a syllable and a letter, form. -/
def syllable? (a b : Nat) : Option Nat :=
  if 0x1100 ≤ a && a ≤ 0x1112 && 0x1161 ≤ b && b ≤ 0x1175 then
    some (0xAC00 + (a - 0x1100) * 588 + (b - 0x1161) * 28)
  else if 0xAC00 ≤ a && a ≤ 0xD7A3 && (a - 0xAC00) % 28 = 0 && 0x11A8 ≤ b && b ≤ 0x11C2 then
    some (a + (b - 0x11A7))
  else none

/-! ## Taking apart, ordering, putting together -/

/-- What a code point is taken apart into; the number bounds how often. -/
def decompose : Nat → Nat → List Nat
  | 0, n => [n]
  | fuel + 1, n =>
    match syllableLetters? n, Range.find? n plainTable, Range.find? n pairTable with
    | some letters, _, _ => letters
    | none, some image, _ => image
    | none, none, some image => image.flatMap (decompose fuel)
    | none, none, none => [n]

/-- A code point put before marks that are ordered by their classes. -/
def putMark (n : Nat) : List Nat → List Nat
  | [] => [n]
  | m :: ms =>
    if markClass m ≠ 0 && markClass m < markClass n then m :: putMark n ms else n :: m :: ms

/-- Code points with the marks after each letter ordered. -/
def ordered (ns : List Nat) : List Nat :=
  ns.foldr putMark []

/-- The code point that two others form. -/
def together? (a b : Nat) : Option Nat :=
  (syllable? a b).orElse fun _ =>
    (pairTable.find? fun r => r.image = [a, b]).map Range.first

/-- Code points put together, as far as there are characters for that: a letter, the marks after it
that stand for themselves, and what follows. -/
def compose (letter : Nat) (marks : List Nat) : List Nat → List Nat
  | [] => letter :: marks
  | n :: ns =>
    let isFree := match marks.getLast? with
      | none => true
      | some m => markClass m < markClass n
    match if isFree then together? letter n else none with
    | some formed => compose formed marks ns
    | none =>
      if markClass n = 0 then letter :: marks ++ compose n [] ns
      else compose letter (marks ++ [n]) ns

/-- The normal form of an identifier. -/
def normalForm (cs : List Char) : List Char :=
  if cs.all fun c => c.toNat < 0x80 then cs
  else
    match ordered (cs.flatMap fun c => decompose 4 c.toNat) with
    | [] => []
    | n :: ns => (compose n [] ns).map Char.ofNat

end Text

end CallLog
