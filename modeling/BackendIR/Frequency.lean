import BackendIR.Decimal.Shortest

/-!
# Frequencies

Blocks and edges carry a relative execution weight, a 64-bit binary floating
point number. It is only stored, compared and printed, so it is kept as its bit
pattern: a sign bit, eleven exponent bits and fifty-two fraction bits.
-/

namespace BackendIR

/-- A weight, as the bit pattern of a 64-bit floating point number. -/
structure Frequency where
  bits : UInt64
  deriving DecidableEq

namespace Frequency

/-- The weight one. -/
def one : Frequency := ⟨0x3FF0000000000000⟩

/-- Whether the sign bit is set. -/
def isNegative (frequency : Frequency) : Bool :=
  frequency.bits.toNat / Nat.pow 2 63 == 1

/-- The biased exponent. -/
def exponentField (frequency : Frequency) : Nat :=
  frequency.bits.toNat / Nat.pow 2 52 % Nat.pow 2 11

/-- The fraction bits. -/
def fractionField (frequency : Frequency) : Nat :=
  frequency.bits.toNat % Nat.pow 2 52

/-- Whether the pattern stands for no number. -/
def isNaN (frequency : Frequency) : Bool :=
  frequency.exponentField == 2047 && frequency.fractionField != 0

/-- Whether the pattern is one of the two zeros. -/
def isZero (frequency : Frequency) : Bool :=
  frequency.exponentField == 0 && frequency.fractionField == 0

/-- Numerical equality: the two zeros are equal, and what is no number differs
from everything, itself included. -/
def sameNumber (left right : Frequency) : Bool :=
  !left.isNaN && !right.isNaN && (left.bits == right.bits || left.isZero && right.isZero)

/-- The magnitude of a nonzero finite weight. Subnormal numbers have no implicit
leading bit; at a power of two the gap below is half the gap above. -/
def magnitude (frequency : Frequency) : Decimal.Binary :=
  if frequency.exponentField == 0 then
    { mantissa := frequency.fractionField, exponent := -1074, narrow := false }
  else
    { mantissa := Nat.pow 2 52 + frequency.fractionField
      exponent := (frequency.exponentField : Int) - 1075
      narrow := frequency.fractionField == 0 && frequency.exponentField != 1 }

/-- The magnitude of a weight that is a number, as text. -/
def magnitudeText (frequency : Frequency) : String :=
  if frequency.exponentField == 2047 then "inf"
  else if frequency.isZero then "0"
  else frequency.magnitude.shortest.positional

/-- A weight is written with the fewest digits that read back, never with an
exponent; a minus sign is kept for negative zero and dropped for `NaN`. -/
def text (frequency : Frequency) : String :=
  if frequency.isNaN then "NaN"
  else (if frequency.isNegative then "-" else "") ++ frequency.magnitudeText

end Frequency

end BackendIR
