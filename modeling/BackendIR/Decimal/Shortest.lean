import BackendIR.Numeral

/-!
# Shortest decimals

A binary floating point number `m * 2 ^ q` stands for all reals that round to
it. Its shortest decimal is the point of the coarsest power-of-ten grid that
meets this interval; of two such points the nearer one, and the upper one when
both are equally near. All comparisons are exact, in natural numbers.
-/

namespace BackendIR.Decimal

/-- A positive binary number `mantissa * 2 ^ exponent`. When `narrow` holds the
next number below is only half as far away as the next one above. -/
structure Binary where
  mantissa : Nat
  exponent : Int
  narrow : Bool
  deriving DecidableEq

/-- A decimal `digits * 10 ^ exponent`. -/
structure Scientific where
  digits : Nat
  exponent : Int
  deriving DecidableEq

/-- A binary number measured against the decimal grid of one exponent. All four
numbers are multiples of one common unit: the value, the ends of the interval
of reals that round to it, and the distance between grid points. -/
structure Measured where
  value : Nat
  lower : Nat
  upper : Nat
  step : Nat
  closed : Bool

/-- Measure a binary number in quarters of its last place against the grid of
multiples of `10 ^ exponent`. The ends of the interval round to the number
exactly when its mantissa is even. -/
def Binary.measure (binary : Binary) (exponent : Int) : Measured :=
  let quarter := Nat.pow 2 (binary.exponent - 2).toNat * Nat.pow 10 (-exponent).toNat
  { value := 4 * binary.mantissa * quarter
    lower := (4 * binary.mantissa - if binary.narrow then 1 else 2) * quarter
    upper := (4 * binary.mantissa + 2) * quarter
    step := Nat.pow 10 exponent.toNat * Nat.pow 2 (2 - binary.exponent).toNat
    closed := binary.mantissa % 2 == 0 }

/-- Whether a grid point rounds to the measured number. -/
def Measured.admits (measured : Measured) (point : Nat) : Bool :=
  let position := point * measured.step
  if measured.closed then
    measured.lower ≤ position && position ≤ measured.upper
  else
    measured.lower < position && position < measured.upper

/-- The grid point to choose among the neighbours of the measured number, if one
of them rounds to it. -/
def Measured.nearest? (measured : Measured) : Option Nat :=
  let below := measured.value / measured.step
  let above := below + 1
  match measured.admits below, measured.admits above with
  | true, true =>
      let toBelow := measured.value - below * measured.step
      let toAbove := above * measured.step - measured.value
      some (if toBelow < toAbove then below else above)
  | true, false => some below
  | false, true => some above
  | false, false => none

/-- The exponents to try, coarsest grid first: every 64-bit floating point number
is below `10 ^ 309`, and the grid of `10 ^ (-342)` meets every interval. -/
def gridExponents : List Int :=
  (List.range 652).map (fun (k : Nat) => 309 - (k : Int))

/-- The shortest decimal that rounds to a binary number. -/
def Binary.shortest (binary : Binary) : Scientific :=
  (gridExponents.findSome? fun exponent =>
    (binary.measure exponent).nearest?.map (Scientific.mk · exponent)).getD ⟨0, 0⟩

/-- A decimal written without an exponent: zeros fill the places between the
digits and the point, and a whole number has no point. -/
def Scientific.positional (decimal : Scientific) : String :=
  let digits := Nat.toDigits 10 decimal.digits
  let whole := (digits.length : Int) + decimal.exponent
  if 0 ≤ decimal.exponent then
    String.ofList (digits ++ List.replicate decimal.exponent.toNat '0')
  else if 0 < whole then
    String.ofList (digits.take whole.toNat ++ '.' :: digits.drop whole.toNat)
  else
    String.ofList ('0' :: '.' :: List.replicate (-whole).toNat '0' ++ digits)

end BackendIR.Decimal
