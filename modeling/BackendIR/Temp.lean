import BackendIR.Register

/-!
# Temporaries

A temporary starts as a numbered virtual value of a bank. Allocation replaces
it by a place: a register, or a stack slot that holds a value of a bank.
-/

namespace BackendIR

/-- The number of a stack slot in its procedure. -/
structure SlotId where
  index : UInt32
  deriving DecidableEq

/-- A slot number is written `slotN`. -/
def SlotId.text (slot : SlotId) : String :=
  "slot" ++ Numeral.decimal slot.index.toNat

/-- A value an instruction works on: virtual before allocation, a place after. -/
inductive Temp where
  | virtual (bank : Bank) (index : UInt32)
  | register (holder : Register)
  | spilled (slot : SlotId) (bank : Bank)
  deriving DecidableEq

namespace Temp

/-- The bank of the value. -/
def bank : Temp → Bank
  | .virtual bank _ => bank
  | .register holder => holder.bank
  | .spilled _ bank => bank

/-- Whether the value is a general purpose one. -/
def isGP (temp : Temp) : Bool := temp.bank.isGP

/-- Whether the value is a floating point one. -/
def isFP (temp : Temp) : Bool := temp.bank.isFP

/-- The register that holds the value, if one does. -/
def register? : Temp → Option Register
  | .register holder => some holder
  | .virtual _ _ | .spilled _ _ => none

/-- Whether a register of a bank holds the value. -/
def inRegisterOf (temp : Temp) (bank : Bank) : Bool :=
  temp.register?.any (·.bank == bank)

/-- The number of a virtual temporary. -/
def virtualIndex? : Temp → Option UInt32
  | .virtual _ index => some index
  | .register _ | .spilled _ _ => none

/-- Whether the temporary is still virtual. -/
def isVirtual (temp : Temp) : Bool := temp.virtualIndex?.isSome

/-- Whether allocation has given the temporary a place. -/
def isPlaced (temp : Temp) : Bool := !temp.isVirtual

/-- Where the fingerprints of spilled temporaries start, far above those of
registers and of the first virtual temporaries. -/
def spillBase : Int32 := 0x20000000

/-- The temporary's contribution to fingerprints, in wrapping 32-bit arithmetic.
Registers keep their own; virtual temporaries are numbered after the sixteen
registers of their bank; floating point values are negated. -/
def fingerprint : Temp → Int32
  | .register holder => holder.fingerprint
  | .virtual .gp index => 17 + index.toInt32
  | .virtual .fp index => -17 - index.toInt32
  | .spilled slot .gp => spillBase + slot.index.toInt32
  | .spilled slot .fp => -(spillBase + slot.index.toInt32)

/-- The text of a temporary. The bank of a spilled one is not written. -/
def text : Temp → String
  | .virtual .gp index => "%tmp" ++ Numeral.decimal index.toNat
  | .virtual .fp index => "%ftmp" ++ Numeral.decimal index.toNat
  | .register holder => holder.text
  | .spilled slot _ => "%" ++ slot.text

end Temp

end BackendIR
