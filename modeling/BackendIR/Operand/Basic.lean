import BackendIR.Condition
import BackendIR.Role
import BackendIR.Temp

/-!
# Operands

What an instruction works on: values, immediates, memory, conditions and markers.
An operand may stand in a general purpose place, in a floating point place, or in
either; memory can be read into both banks.
-/

namespace BackendIR

/-- An instruction operand. Immediates and offsets are 32-bit numbers; a 64-bit
immediate is given by its two halves. -/
inductive Operand where
  /-- A value. -/
  | temp (value : Temp)
  /-- An immediate used as a number. -/
  | number (value : Int32)
  /-- A 64-bit immediate used as a number. -/
  | number64 (low high : Int32)
  /-- An immediate used as a bit pattern. -/
  | pattern (value : Int32)
  /-- A 64-bit immediate used as a bit pattern. -/
  | pattern64 (low high : Int32)
  /-- Memory at `base + offset`. -/
  | address (base : Temp) (offset : Int32)
  /-- Stack storage, an address once the frame is laid out. -/
  | stack (slot : SlotId) (offset : Int32)
  /-- The area for outgoing call arguments. -/
  | outgoing (offset : Int32)
  /-- Memory at `base + index * scale + offset`. -/
  | indexed (base index : Temp) (scale : UInt8) (offset : Int32)
  /-- An integer comparison. -/
  | comparison (condition : Comparison)
  /-- A condition on a result. -/
  | resultTest (condition : ResultTest)
  /-- A floating point comparison. -/
  | floatComparison (condition : FloatComparison)
  /-- A marker with no payload. -/
  | special
  /-- A width used as a tag. -/
  | width (tag : Width)
  deriving DecidableEq

namespace Operand

/-- The shape of an operand. -/
inductive Kind where
  | temp
  | number
  | number64
  | pattern
  | pattern64
  | address
  | stack
  | outgoing
  | indexed
  | comparison
  | resultTest
  | floatComparison
  | special
  | width
  deriving DecidableEq

/-- The number of a shape in fingerprints. -/
def Kind.code : Kind → UInt32
  | .temp => 1
  | .number => 2
  | .number64 => 3
  | .pattern => 4
  | .pattern64 => 5
  | .address => 6
  | .stack => 7
  | .outgoing => 8
  | .indexed => 9
  | .comparison => 10
  | .resultTest => 11
  | .floatComparison => 12
  | .special => 13
  | .width => 14

/-- The operand's shape. -/
def kind : Operand → Kind
  | .temp _ => .temp
  | .number _ => .number
  | .number64 _ _ => .number64
  | .pattern _ => .pattern
  | .pattern64 _ _ => .pattern64
  | .address _ _ => .address
  | .stack _ _ => .stack
  | .outgoing _ => .outgoing
  | .indexed _ _ _ _ => .indexed
  | .comparison _ => .comparison
  | .resultTest _ => .resultTest
  | .floatComparison _ => .floatComparison
  | .special => .special
  | .width _ => .width

/-- The operand that names a register. -/
def ofRegister (register : Register) : Operand :=
  .temp (.register register)

/-! ### Components -/

/-- The value that the operand is. -/
def temp? : Operand → Option Temp
  | .temp value => some value
  | _ => none

/-- The register that the operand is. -/
def register? (operand : Operand) : Option Register :=
  operand.temp?.bind Temp.register?

/-- The number of a 32-bit immediate. -/
def value? : Operand → Option Int32
  | .number value | .pattern value => some value
  | _ => none

/-- The low and the high half of a 64-bit immediate. -/
def halves? : Operand → Option (Int32 × Int32)
  | .number64 low high | .pattern64 low high => some (low, high)
  | _ => none

/-- The base of an address. -/
def base? : Operand → Option Temp
  | .address base _ | .indexed base _ _ _ => some base
  | _ => none

/-- The offset of a memory operand. -/
def offset? : Operand → Option Int32
  | .address _ offset | .indexed _ _ _ offset | .stack _ offset | .outgoing offset => some offset
  | _ => none

/-- The slot of stack storage. -/
def slot? : Operand → Option SlotId
  | .stack slot _ => some slot
  | _ => none

/-- The width of a width tag. -/
def width? : Operand → Option Width
  | .width tag => some tag
  | _ => none

/-- Every value that occurs in the operand: the value itself, or the base and
then the index of an address. -/
def temps : Operand → List Temp
  | .temp value => [value]
  | .address base _ => [base]
  | .indexed base index _ _ => [base, index]
  | _ => []

/-! ### Classes -/

/-- Whether the operand is a 32-bit immediate. -/
def isImmediate (operand : Operand) : Bool := operand.value?.isSome

/-- Whether the operand is a 64-bit immediate. -/
def isBigImmediate (operand : Operand) : Bool := operand.halves?.isSome

/-- Whether the operand is in memory. -/
def isMemory (operand : Operand) : Bool := operand.offset?.isSome

/-- Whether the operand is memory of the current frame. -/
def isFrameMemory : Operand → Bool
  | .address (.register base) _ => base == Register.framePointer || base == Register.stackPointer
  | .stack _ _ | .outgoing _ => true
  | _ => false

/-- Whether the operand is a value of a bank. -/
def isTempOf (operand : Operand) (bank : Bank) : Bool :=
  operand.temp?.any (·.bank == bank)

/-- Whether the operand is the marker with no payload. -/
def isSpecial (operand : Operand) : Bool := operand.kind == .special

/-- Whether the operand is a condition. -/
def isCondition : Operand → Bool
  | .comparison _ | .resultTest _ | .floatComparison _ => true
  | _ => false

/-- Whether the operand holds a value whose lifetime matters. -/
def isAlive (operand : Operand) : Bool :=
  operand.temp?.isSome || operand.slot?.isSome

/-! ### Banks -/

/-- Whether the operand can stand in a general purpose place. -/
def isGP : Operand → Bool
  | .temp value => value.isGP
  | _ => true

/-- Whether the operand can stand in a floating point place. -/
def isFP : Operand → Bool
  | .temp value => value.isFP
  | .address _ _ | .indexed _ _ _ _ | .stack _ _ | .outgoing _ | .number64 _ _ => true
  | _ => false

/-- Whether the operand fixes a bank on its own. -/
def fixesBank : Operand → Bool
  | .number _ | .pattern _ | .pattern64 _ _ | .temp _ => true
  | _ => false

/-- The bank an operand is taken to be of: general purpose whenever it can be. -/
def bank (operand : Operand) : Bank :=
  if operand.isGP then .gp else .fp

/-- Whether the operand can stand in a place of a bank. -/
def admits (operand : Operand) : Bank → Bool
  | .gp => operand.isGP
  | .fp => operand.isFP

/-- Whether two operands can be of one bank. An operand that fixes a bank decides,
the left one first; two operands that fix none always agree. -/
def canShareBank (left right : Operand) : Bool :=
  if left.fixesBank then right.admits left.bank
  else if right.fixesBank then left.admits right.bank
  else true

/-! ### Encodable forms -/

/-- Whether an immediate fits a 32-bit field. -/
def fitsImmediate (value : Int) : Bool :=
  Int32.minValue.toInt ≤ value && value ≤ Int32.maxValue.toInt

/-- The logarithm of an index scale that the machine can encode. -/
def scaleShift? (scale : UInt8) : Option Nat :=
  [1, 2, 4, 8].idxOf? scale

/-- Whether the machine can encode an index scale. -/
def isScale (scale : UInt8) : Bool :=
  (scaleShift? scale).isSome

/-- Whether the machine can encode the operand for an access of a width. -/
def isEncodable (operand : Operand) (_width : Width) : Bool :=
  match operand with
  | .indexed _ _ scale _ => isScale scale
  | _ => true

/-- The address of frame storage at an offset from the frame pointer, or from the
stack pointer where the former cannot be encoded. -/
def frameAddress (offset : Int32) (frameSize : UInt32) (width : Width) : Operand :=
  let fromFrame : Operand := .address (.register Register.framePointer) offset
  if fromFrame.isEncodable width then fromFrame
  else .address (.register Register.stackPointer) (offset + frameSize.toInt32)

/-! ### Inversion -/

/-- The condition that holds exactly when the operand's condition does not. -/
def inverse? : Operand → Option Operand
  | .comparison condition => some (.comparison condition.inverse)
  | .resultTest condition => condition.inverse?.map .resultTest
  | .floatComparison condition => some (.floatComparison condition.inverse)
  | _ => none

/-- Whether the operand is a condition with an inverse. -/
def isInvertible (operand : Operand) : Bool :=
  operand.inverse?.isSome

end Operand

end BackendIR
