import BackendIR.Block
import BackendIR.RegisterSet
import BackendIR.StackSlot

/-!
# Procedures

One unit of compilation: its blocks and stack slots, how many virtual values of
each bank it has, its frame, and the registers that allocation must not use.
Blocks and slots are referred to by position.
-/

namespace BackendIR

/-- A unit of compilation. -/
structure Procedure where
  blocks : List Block
  slots : List StackSlot
  gpTemps : UInt32
  fpTemps : UInt32
  callArea : UInt32
  frameSize : UInt32
  pinned : RegisterSet
  deriving DecidableEq

namespace Procedure

/-- The procedure with nothing in it. -/
def empty : Procedure where
  blocks := []
  slots := []
  gpTemps := 0
  fpTemps := 0
  callArea := 0
  frameSize := 0
  pinned := RegisterSet.empty

/-! ### Growing -/

/-- The number of the next block. -/
def nextBlock (procedure : Procedure) : BlockId :=
  ⟨UInt32.ofNat procedure.blocks.length⟩

/-- Add an empty block of a weight at the end. -/
def addBlock (procedure : Procedure) (frequency : Frequency) : Procedure :=
  { procedure with blocks := procedure.blocks ++ [Block.fresh procedure.nextBlock frequency] }

/-- The number of the next stack slot. -/
def nextSlot (procedure : Procedure) : SlotId :=
  ⟨UInt32.ofNat procedure.slots.length⟩

/-- Add a stack slot at the end. -/
def addSlot (procedure : Procedure) (size : UInt32) (kind : StackSlot.Kind) : Procedure :=
  { procedure with slots := procedure.slots ++ [StackSlot.fresh procedure.nextSlot size kind] }

/-- How many virtual values of a bank there are. -/
def tempCount (procedure : Procedure) : Bank → UInt32
  | .gp => procedure.gpTemps
  | .fp => procedure.fpTemps

/-- The next virtual value of a bank. -/
def nextTemp (procedure : Procedure) (bank : Bank) : Temp :=
  .virtual bank (procedure.tempCount bank)

/-- Count one more virtual value of a bank. -/
def addTemp (procedure : Procedure) : Bank → Procedure
  | .gp => { procedure with gpTemps := procedure.gpTemps + 1 }
  | .fp => { procedure with fpTemps := procedure.fpTemps + 1 }

/-! ### Access by number -/

/-- The block at the position that a number names. -/
def block? (procedure : Procedure) (id : BlockId) : Option Block :=
  procedure.blocks[id.index.toNat]?

/-- Put a block at the position that a number names. -/
def setBlock (procedure : Procedure) (id : BlockId) (block : Block) : Procedure :=
  { procedure with blocks := procedure.blocks.set id.index.toNat block }

/-- The slot at the position that a number names. -/
def slot? (procedure : Procedure) (id : SlotId) : Option StackSlot :=
  procedure.slots[id.index.toNat]?

/-- Put a slot at the position that a number names. -/
def setSlot (procedure : Procedure) (id : SlotId) (slot : StackSlot) : Procedure :=
  { procedure with slots := procedure.slots.set id.index.toNat slot }

/-! ### The frame -/

/-- The alignment of the stack at calls, in bytes. -/
def stackAlignment : Nat := 16

/-- The least multiple of the stack alignment that is no less than a size, if a
32-bit word holds it. -/
def alignToStack? (size : UInt32) : Option UInt32 :=
  let aligned := (size.toNat + (stackAlignment - 1)) / stackAlignment * stackAlignment
  if aligned < UInt32.size then some (UInt32.ofNat aligned) else none

/-- Let the area for outgoing call arguments hold a number of bytes. The area is
aligned to the stack and never shrinks. -/
def growCallArea (procedure : Procedure) (size : UInt32) : Except Fault Procedure :=
  match alignToStack? size with
  | some aligned => .ok { procedure with callArea := max procedure.callArea aligned }
  | none => .error (.areaTooLarge size)

/-! ### Pinned registers -/

/-- Keep a register away from allocation. -/
def pin (procedure : Procedure) (register : Register) : Procedure :=
  { procedure with pinned := procedure.pinned.insert register }

/-- Keep several registers away from allocation. -/
def pinAll (procedure : Procedure) (registers : RegisterSet) : Procedure :=
  { procedure with pinned := procedure.pinned.union registers }

/-- Let allocation use a register again. -/
def unpin (procedure : Procedure) (register : Register) : Procedure :=
  { procedure with pinned := procedure.pinned.erase register }

/-- The pinned registers that the procedure has to preserve. -/
def pinnedSaves (procedure : Procedure) : RegisterSet :=
  RegisterSet.calleeSaves.inter procedure.pinned

/-! ### Fingerprint and text -/

/-- The procedure's fingerprint: all blocks, then all slots, in wrapping 32-bit
arithmetic. -/
def fingerprint (procedure : Procedure) : UInt32 :=
  procedure.slots.foldl (fun sum slot => sum * 101 + slot.fingerprint)
    (procedure.blocks.foldl Block.fold 0)

/-- The stack slots, line by line after a heading, or nothing if there are none. -/
def slotLines : List StackSlot → List String
  | [] => []
  | slots => "Stack slots:" :: slots.map (fun slot => "    " ++ slot.text)

/-- A line that gives a size, or nothing for size zero. -/
def sizeLine (label : String) (size : UInt32) : List String :=
  if size = 0 then [] else [label ++ Numeral.decimal size.toNat]

/-- The whole procedure, line by line. -/
def lines (procedure : Procedure) : List String :=
  procedure.blocks.flatMap Block.lines ++ slotLines procedure.slots ++
    sizeLine "Frame size: " procedure.frameSize ++
    sizeLine "Call arg area size: " procedure.callArea

/-- The lines of the procedure as one text. -/
def dump (procedure : Procedure) : String :=
  Listing.lines procedure.lines

end Procedure

end BackendIR
