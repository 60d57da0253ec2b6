/-!
# Numerals

Reading unsigned and signed decimal numerals, and hexadecimal digits. A numeral is a non-empty run of
ASCII digits; leading zeros do not matter. The readers take the whole text or refuse it, and
`natOfText?` does so too where the value must fit a bound.
-/

namespace SchemaBridge.Text

/-- The value of a run of digits that follows digits of value `value`. -/
def digitsValue? (value : Nat) : List Char → Option Nat
  | [] => some value
  | c :: cs => if c.isDigit then digitsValue? (10 * value + (c.toNat - '0'.toNat)) cs else none

/-- The value of a numeral. -/
def natOfDigits? : List Char → Option Nat
  | [] => none
  | cs => digitsValue? 0 cs

/-- The value of a numeral that is at most `bound`. -/
def natOfText? (bound : Nat) (text : String) : Option Nat :=
  (natOfDigits? text.toList).filter (· ≤ bound)

/-- The value of a numeral that fits 32 bits. -/
def uint32OfText? (text : String) : Option UInt32 :=
  (natOfText? 4294967295 text).map Nat.toUInt32

/-- The value of a numeral with an optional sign in front. -/
def intOfText? (text : String) : Option Int :=
  match text.toList with
  | '-' :: cs => (natOfDigits? cs).map (fun n => -(n : Int))
  | '+' :: cs => (natOfDigits? cs).map Int.ofNat
  | cs => (natOfDigits? cs).map Int.ofNat

/-- The value of a hexadecimal digit. -/
def hexValue? (c : Char) : Option Nat :=
  if c.isDigit then some (c.toNat - '0'.toNat)
  else if 'a' ≤ c ∧ c ≤ 'f' then some (c.toNat - 'a'.toNat + 10)
  else if 'A' ≤ c ∧ c ≤ 'F' then some (c.toNat - 'A'.toNat + 10)
  else none

/-- The letter in front of the exponent of a number. -/
def isExponentMark (c : Char) : Bool := c == 'e' || c == 'E'

end SchemaBridge.Text
