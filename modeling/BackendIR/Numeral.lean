/-!
# Numerals

The spellings of numbers that occur in texts: plain decimal digits, decimal and
hexadecimal digits after a minus sign, and hexadecimal words of fixed length.
No numeral has a leading zero of its own, so a numeral determines its number.
-/

namespace BackendIR.Numeral

/-- The decimal digits of a natural number. -/
def decimal (n : Nat) : String :=
  String.ofList (Nat.toDigits 10 n)

/-- A decimal numeral determines its number. -/
theorem decimal_injective {left right : Nat} (same : decimal left = decimal right) :
    left = right := by
  have digits : Nat.toDigits 10 left = Nat.toDigits 10 right := by
    simpa [decimal] using congrArg String.toList same
  have values := congrArg (fun digits => Nat.ofDigitChars 10 digits 0) digits
  simpa using values

/-- The lower-case hexadecimal digits of a natural number. -/
def hex (n : Nat) : String :=
  String.ofList (Nat.toDigits 16 n)

/-- A minus sign for negative values, then the digits of the absolute value. -/
def signed (digits : Nat → String) (value : Int) : String :=
  (if value < 0 then "-" else "") ++ digits value.natAbs

/-- Decimal digits after an optional minus sign. -/
def signedDecimal (value : Int) : String :=
  signed decimal value

/-- Hexadecimal digits of the absolute value after an optional minus sign. -/
def signedHex (value : Int) : String :=
  signed hex value

/-- A 32-bit word as `0x` and exactly eight hexadecimal digits. -/
def hexWord (word : UInt32) : String :=
  let digits := Nat.toDigits 16 word.toNat
  "0x" ++ String.ofList (List.replicate (8 - digits.length) '0' ++ digits)

end BackendIR.Numeral
