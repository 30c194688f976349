/-!
# Decimal numerals

A numeral is an optional sign followed by ASCII digits. Reading and writing are refused beyond
`digitLimit` digits: the cost of both grows with the square of the length, and the numbers come from
the outside. Leading zeros count as digits, the sign does not.

The main statement is `valueOf_digits`: the digits of a number read back as that number.
-/

namespace CallLog

namespace Text

/-- The greatest number of digits that a numeral may have. -/
def digitLimit : Nat := 4300

/-- Whether a character is an ASCII digit. -/
def isDigit (c : Char) : Bool :=
  '0' ≤ c && c ≤ '9'

/-- The number that a list of digits stands for. -/
def valueOf (ds : List Char) : Nat :=
  ds.foldl (fun n d => 10 * n + (d.toNat - '0'.toNat)) 0

/-- The digits of a number, the most significant first. -/
def digits (n : Nat) : List Char :=
  if n < 10 then [Nat.digitChar n] else digits (n / 10) ++ [Nat.digitChar (n % 10)]

/-- The canonical numeral of an integer, of any length. -/
def numeral (i : Int) : List Char :=
  if i < 0 then '-' :: digits i.natAbs else digits i.natAbs

/-- Whether an integer has more digits than a numeral may have. -/
def isTooLong (i : Int) : Bool :=
  Nat.pow 10 digitLimit ≤ i.natAbs

/-- The canonical numeral of an integer, if it is not too long. -/
def writeInt? (i : Int) : Option (List Char) :=
  if isTooLong i then none else some (numeral i)

/-- The sign of a numeral and what follows it. -/
def splitSign : List Char → Int × List Char
  | '+' :: rest => (1, rest)
  | '-' :: rest => (-1, rest)
  | cs => (1, cs)

/-- The sign and the digits of a text that is a numeral. -/
def numeral? (cs : List Char) : Option (Int × List Char) :=
  match splitSign cs with
  | (_, []) => none
  | (sign, ds) => if ds.all isDigit then some (sign, ds) else none

theorem valueOf_append (ds : List Char) (d : Char) :
    valueOf (ds ++ [d]) = 10 * valueOf ds + (d.toNat - '0'.toNat) := by
  simp [valueOf]

theorem digitChar_toNat : ∀ n : Fin 10, (Nat.digitChar n).toNat - '0'.toNat = n := by
  decide

/-- The digits of a number read back as that number. -/
theorem valueOf_digits (n : Nat) : valueOf (digits n) = n := by
  fun_induction digits n with
  | case1 n h =>
    simpa [valueOf] using digitChar_toNat ⟨n, h⟩
  | case2 n h ih =>
    have hd := digitChar_toNat ⟨n % 10, Nat.mod_lt n (by decide)⟩
    rw [valueOf_append, ih]
    simp only at hd
    rw [hd]
    omega

end Text

end CallLog
