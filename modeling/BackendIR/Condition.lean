/-!
# Conditions

What branches and comparisons test. A condition's code is the machine's
condition encoding; conditions on floating point values add a bit that swaps the
compared operands and a bit that asks for a parity check.
-/

namespace BackendIR

/-- An integer comparison. -/
inductive Comparison where
  | equal
  | notEqual
  | above
  | aboveOrEqual
  | below
  | belowOrEqual
  | greaterThan
  | greaterThanOrEqual
  | lessThan
  | lessThanOrEqual
  deriving DecidableEq

namespace Comparison

/-- All integer comparisons. -/
def all : List Comparison :=
  [.equal, .notEqual, .above, .aboveOrEqual, .below, .belowOrEqual, .greaterThan,
    .greaterThanOrEqual, .lessThan, .lessThanOrEqual]

/-- The machine's encoding of the comparison. -/
def code : Comparison → Int32
  | .equal => 4
  | .notEqual => 5
  | .above => 7
  | .aboveOrEqual => 3
  | .below => 2
  | .belowOrEqual => 6
  | .greaterThan => 15
  | .greaterThanOrEqual => 13
  | .lessThan => 12
  | .lessThanOrEqual => 14

/-- The comparison that holds exactly when this one does not. -/
def inverse : Comparison → Comparison
  | .equal => .notEqual
  | .notEqual => .equal
  | .above => .belowOrEqual
  | .aboveOrEqual => .below
  | .below => .aboveOrEqual
  | .belowOrEqual => .above
  | .greaterThan => .lessThanOrEqual
  | .greaterThanOrEqual => .lessThan
  | .lessThan => .greaterThanOrEqual
  | .lessThanOrEqual => .greaterThan

/-- Inverting a comparison twice gives it back. -/
@[simp] theorem inverse_inverse (comparison : Comparison) :
    comparison.inverse.inverse = comparison := by
  cases comparison <;> rfl

/-- The comparison's name. -/
def text : Comparison → String
  | .equal => "Equal"
  | .notEqual => "NotEqual"
  | .above => "Above"
  | .aboveOrEqual => "AboveOrEqual"
  | .below => "Below"
  | .belowOrEqual => "BelowOrEqual"
  | .greaterThan => "GreaterThan"
  | .greaterThanOrEqual => "GreaterThanOrEqual"
  | .lessThan => "LessThan"
  | .lessThanOrEqual => "LessThanOrEqual"

end Comparison

/-- A condition on the result of an arithmetic operation. -/
inductive ResultTest where
  | overflow
  | signed
  | positiveOrZero
  | zero
  | nonZero
  deriving DecidableEq

namespace ResultTest

/-- All conditions on results. -/
def all : List ResultTest := [.overflow, .signed, .positiveOrZero, .zero, .nonZero]

/-- The machine's encoding of the condition. -/
def code : ResultTest → Int32
  | .overflow => 0
  | .signed => 8
  | .positiveOrZero => 9
  | .zero => 4
  | .nonZero => 5

/-- The condition that holds exactly when this one does not. No single condition
is the inverse of an overflow. -/
def inverse? : ResultTest → Option ResultTest
  | .overflow => none
  | .signed => some .positiveOrZero
  | .positiveOrZero => some .signed
  | .zero => some .nonZero
  | .nonZero => some .zero

/-- Inversion is its own inverse where it is defined. -/
theorem inverse?_symm {left right : ResultTest} (inverted : left.inverse? = some right) :
    right.inverse? = some left := by
  cases left <;> cases right <;> simp_all [inverse?]

/-- The condition's name. -/
def text : ResultTest → String
  | .overflow => "Overflow"
  | .signed => "Signed"
  | .positiveOrZero => "PositiveOrZero"
  | .zero => "Zero"
  | .nonZero => "NonZero"

end ResultTest

/-- A floating point comparison; the unordered ones also hold when an operand is
no number. -/
inductive FloatComparison where
  | equal
  | notEqual
  | greaterThan
  | greaterThanOrEqual
  | lessThan
  | lessThanOrEqual
  | equalOrUnordered
  | notEqualOrUnordered
  | greaterThanOrUnordered
  | greaterThanOrEqualOrUnordered
  | lessThanOrUnordered
  | lessThanOrEqualOrUnordered
  deriving DecidableEq

namespace FloatComparison

/-- All floating point comparisons. -/
def all : List FloatComparison :=
  [.equal, .notEqual, .greaterThan, .greaterThanOrEqual, .lessThan, .lessThanOrEqual,
    .equalOrUnordered, .notEqualOrUnordered, .greaterThanOrUnordered,
    .greaterThanOrEqualOrUnordered, .lessThanOrUnordered, .lessThanOrEqualOrUnordered]

/-- The bit that swaps the compared operands. -/
def swapBit : Int32 := 0x10

/-- The bit that asks for a parity check as well. -/
def parityBit : Int32 := 0x20

/-- The encoding of the comparison: that of an unsigned integer comparison, with
the swap bit or the parity bit added. -/
def code : FloatComparison → Int32
  | .equal => Comparison.equal.code ||| parityBit
  | .notEqual => Comparison.notEqual.code
  | .greaterThan => Comparison.above.code
  | .greaterThanOrEqual => Comparison.aboveOrEqual.code
  | .lessThan => Comparison.above.code ||| swapBit
  | .lessThanOrEqual => Comparison.aboveOrEqual.code ||| swapBit
  | .equalOrUnordered => Comparison.equal.code
  | .notEqualOrUnordered => Comparison.notEqual.code ||| parityBit
  | .greaterThanOrUnordered => Comparison.belowOrEqual.code ||| swapBit
  | .greaterThanOrEqualOrUnordered => Comparison.below.code ||| swapBit
  | .lessThanOrUnordered => Comparison.below.code
  | .lessThanOrEqualOrUnordered => Comparison.belowOrEqual.code

/-- The comparison that holds exactly when this one does not; it is unordered
exactly when this one is ordered. -/
def inverse : FloatComparison → FloatComparison
  | .equal => .notEqualOrUnordered
  | .notEqual => .equalOrUnordered
  | .greaterThan => .lessThanOrEqualOrUnordered
  | .greaterThanOrEqual => .lessThanOrUnordered
  | .lessThan => .greaterThanOrEqualOrUnordered
  | .lessThanOrEqual => .greaterThanOrUnordered
  | .equalOrUnordered => .notEqual
  | .notEqualOrUnordered => .equal
  | .greaterThanOrUnordered => .lessThanOrEqual
  | .greaterThanOrEqualOrUnordered => .lessThan
  | .lessThanOrUnordered => .greaterThanOrEqual
  | .lessThanOrEqualOrUnordered => .greaterThan

/-- Inverting a comparison twice gives it back, unordered operands included. -/
@[simp] theorem inverse_inverse (comparison : FloatComparison) :
    comparison.inverse.inverse = comparison := by
  cases comparison <;> rfl

/-- The comparison's name. -/
def text : FloatComparison → String
  | .equal => "DoubleEqual"
  | .notEqual => "DoubleNotEqual"
  | .greaterThan => "DoubleGreaterThan"
  | .greaterThanOrEqual => "DoubleGreaterThanOrEqual"
  | .lessThan => "DoubleLessThan"
  | .lessThanOrEqual => "DoubleLessThanOrEqual"
  | .equalOrUnordered => "DoubleEqualOrUnordered"
  | .notEqualOrUnordered => "DoubleNotEqualOrUnordered"
  | .greaterThanOrUnordered => "DoubleGreaterThanOrUnordered"
  | .greaterThanOrEqualOrUnordered => "DoubleGreaterThanOrEqualOrUnordered"
  | .lessThanOrUnordered => "DoubleLessThanOrUnordered"
  | .lessThanOrEqualOrUnordered => "DoubleLessThanOrEqualOrUnordered"

end FloatComparison

end BackendIR
