import CallLog.Text.LetterCase

/-!
# Templates

A message template is text with slots. A slot is an opening brace, a body without a closing brace,
and a closing brace; an opening brace that no closing brace follows is text. `Template.ofText` reads
a template in one pass that carries the slot which is still open, and `Template.toText` writes it
back; `toText_ofText` says that nothing is lost.

The normal form of a template has empty bodies. `spacedName` makes the words of a generated message
from the name of a callable.
-/

namespace CallLog

/-- A piece of a template: a character of text, or a slot with its body. -/
inductive Piece where
  | lit (c : Char)
  | slot (body : List Char)
  deriving Repr, DecidableEq

/-- A template, piece by piece. -/
abbrev Template := List Piece

namespace Template

/-- The pieces of a text. The first argument is the body of the slot that is still open, read
backwards. -/
def scan : Option (List Char) → List Char → Template
  | none, [] => []
  | none, c :: cs => if c = '\x7b' then scan (some []) cs else .lit c :: scan none cs
  | some body, [] => .lit '\x7b' :: body.reverse.map .lit
  | some body, c :: cs =>
    if c = '\x7d' then .slot body.reverse :: scan none cs else scan (some (c :: body)) cs

/-- The template that a text is. -/
def ofText (text : List Char) : Template :=
  scan none text

/-- The text of one piece. -/
def pieceText : Piece → List Char
  | .lit c => [c]
  | .slot body => '\x7b' :: body ++ ['\x7d']

/-- The text that a template is written as. -/
def toText (template : Template) : List Char :=
  template.flatMap pieceText

/-- A piece with an empty body. -/
def bare : Piece → Piece
  | .lit c => .lit c
  | .slot _ => .slot []

/-- The template with the bodies of all slots taken out. -/
def strip (template : Template) : Template :=
  template.map bare

/-- The body of a slot. -/
def body? : Piece → Option (List Char)
  | .lit _ => none
  | .slot body => some body

/-- The bodies of the slots, in order. -/
def bodies (template : Template) : List (List Char) :=
  template.filterMap body?

/-- One character of a name in a generated message: a capital letter begins a new word. -/
def spacedChar (c : Char) : List Char :=
  if Text.isCapital c then ' ' :: Text.lower c else [c]

/-- A name in capital and small letters split into words of small letters. -/
def spacedName (name : List Char) : List Char :=
  name.flatMap spacedChar

theorem toText_cons (p : Piece) (template : Template) :
    toText (p :: template) = pieceText p ++ toText template := by
  simp [toText]

theorem toText_map_lit (cs : List Char) : toText (cs.map .lit) = cs := by
  induction cs with
  | nil => rfl
  | cons c cs ih => simp [toText_cons, pieceText, ih]

/-- Scanning loses nothing: the text of the pieces is what was open and what was to come. -/
theorem toText_scan (pending : Option (List Char)) (cs : List Char) :
    toText (scan pending cs) =
      (match pending with
        | none => []
        | some body => '\x7b' :: body.reverse) ++ cs := by
  induction cs generalizing pending with
  | nil =>
    cases pending with
    | none => rfl
    | some body => simp only [scan, toText_cons, pieceText, toText_map_lit, List.append_nil,
        List.singleton_append]
  | cons c cs ih =>
    cases pending with
    | none =>
      by_cases h : c = '\x7b'
      · simp [scan, h, ih]
      · simp [scan, h, toText_cons, pieceText, ih]
    | some body =>
      by_cases h : c = '\x7d'
      · simp [scan, h, toText_cons, pieceText, ih]
      · simp [scan, h, ih]

/-- A template is written as the text that it was read from. -/
theorem toText_ofText (text : List Char) : toText (ofText text) = text := by
  simp [ofText, toText_scan]

/-- A slot is replaced by an empty one, and a lone opening brace stays. -/
example :
    toText (strip (ofText "a\x7b1\x7d\x7bb".toList)) = "a\x7b\x7d\x7bb".toList := by
  decide

end Template

end CallLog
