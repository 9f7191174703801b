import BackendIR.Numeral

/-!
# Banks, widths and value types

Every operand occurrence lives in a register bank and touches a number of bits.
Value types are what call signatures speak of; all but `void` determine a bank
and a width.
-/

namespace BackendIR

/-- A register file: general purpose or floating point. -/
inductive Bank where
  | gp
  | fp
  deriving DecidableEq

namespace Bank

/-- Both banks, general purpose first. -/
def all : List Bank := [.gp, .fp]

/-- Whether the bank is the general purpose one. -/
def isGP : Bank → Bool
  | .gp => true
  | .fp => false

/-- Whether the bank is the floating point one. -/
def isFP : Bank → Bool
  | .gp => false
  | .fp => true

/-- The bank's abbreviation. -/
def text : Bank → String
  | .gp => "GP"
  | .fp => "FP"

end Bank

/-- The number of bits an instruction reads or writes through an operand. -/
inductive Width where
  | w8
  | w16
  | w32
  | w64
  deriving DecidableEq

namespace Width

/-- All widths, narrowest first. -/
def all : List Width := [.w8, .w16, .w32, .w64]

/-- The width of a pointer on the target machine. -/
def pointer : Width := .w64

/-- The width in bits. -/
def bits : Width → UInt32
  | .w8 => 8
  | .w16 => 16
  | .w32 => 32
  | .w64 => 64

/-- The number of bytes an access of this width touches. -/
def bytes (width : Width) : UInt32 :=
  width.bits / 8

/-- The narrowest width that covers a number of bytes, if one does. -/
def ofBytes? (bytes : UInt32) : Option Width :=
  all.find? (fun width => bytes ≤ width.bytes)

/-- The width that can always hold a spilled value of a bank. -/
def spilling : Bank → Width
  | .gp => pointer
  | .fp => .w64

/-- The narrowest width of a bank's values. -/
def narrowest : Bank → Width
  | .gp => .w8
  | .fp => .w32

/-- A width is written as its number of bits. -/
def text (width : Width) : String :=
  Numeral.decimal width.bits.toNat

end Width

/-- The types of call results and call arguments. -/
inductive ValueType where
  | void
  | int32
  | int64
  | float
  | double
  deriving DecidableEq

namespace ValueType

/-- All value types. -/
def all : List ValueType := [.void, .int32, .int64, .float, .double]

/-- The bank that holds values of a type; `void` has no values. -/
def bank? : ValueType → Option Bank
  | .void => none
  | .int32 | .int64 => some .gp
  | .float | .double => some .fp

/-- The width of values of a type; `void` has no values. -/
def width? : ValueType → Option Width
  | .void => none
  | .int32 | .float => some .w32
  | .int64 | .double => some .w64

/-- The type's name. -/
def name : ValueType → String
  | .void => "Void"
  | .int32 => "Int32"
  | .int64 => "Int64"
  | .float => "Float"
  | .double => "Double"

end ValueType

end BackendIR
