import SchemaBridge.Source.Node

/-!
# Decimal capacity

How many decimal digits a storage kind can hold. For byte sequences of `n` bytes the limit is the
integer part of `(8 n - 1) · log₁₀ 2`, computed in double precision; the computation is written out
here in exact integers.
-/

namespace SchemaBridge.Source

/-- The significand of log₁₀ 2 in double precision, in units of 2⁻⁵⁴. -/
def logTwoSignificand : Nat := 0x134413509f79ff

/-- Rounds to the nearest number with at most 53 significant bits, a tie to the even one. -/
def roundToDouble (n : Nat) : Nat :=
  let unit := Nat.pow 2 (n.log2 + 1 - 53)
  let low := n % unit
  let floor := n - low
  if 2 * low < unit then floor
  else if unit < 2 * low then floor + unit
  else if floor / unit % 2 = 0 then floor
  else floor + unit

/-- The integer part of `k` times log₁₀ 2, the product rounded to double precision. -/
def digitsOfBits (k : Nat) : Nat := roundToDouble (k * logTwoSignificand) / Nat.pow 2 54

/-- The decimal digits that fit `length` bytes. -/
def digitsOfBytes (length : UInt32) : UInt32 :=
  if length = 0 then 0 else (min (digitsOfBits (8 * length.toNat - 1)) 4294967295).toUInt32

/-- The greatest decimal precision of a storage kind, where there is one. -/
def Physical.decimalCapacity? : Physical → Option UInt32
  | .int32 => some 9
  | .int64 => some 18
  | .fixedLenByteArray length => some (digitsOfBytes length)
  | _ => none

end SchemaBridge.Source
