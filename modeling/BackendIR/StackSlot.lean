import BackendIR.Fault

/-!
# Stack slots

Storage in the frame. A slot may grow until the frame is laid out; from then on
it has an offset from the frame pointer and its size is frozen.
-/

namespace BackendIR

namespace StackSlot

/-- Who asked for the storage. -/
inductive Kind where
  /-- The program did, and may take the address. -/
  | locked
  /-- Allocation did, to spill a value. -/
  | spill
  deriving DecidableEq

end StackSlot

/-- A piece of frame storage with its number, and its offset once it has one. -/
structure StackSlot where
  id : SlotId
  size : UInt32
  kind : StackSlot.Kind
  offset? : Option Int32
  deriving DecidableEq

namespace StackSlot

/-- A slot that has no place yet. -/
def fresh (id : SlotId) (size : UInt32) (kind : Kind) : StackSlot :=
  ⟨id, size, kind, none⟩

/-- Let the slot have at least a number of bytes. It never shrinks. -/
def growTo (slot : StackSlot) (size : UInt32) : Except Fault StackSlot :=
  match slot.offset? with
  | some offset => .error (.slotPlaced slot.id offset)
  | none => .ok { slot with size := max slot.size size }

/-- Give the slot its offset from the frame pointer. -/
def place (slot : StackSlot) (offset : Int32) : StackSlot :=
  { slot with offset? := some offset }

/-- The alignment that a slot of this size needs. -/
def alignment (slot : StackSlot) : UInt32 :=
  if slot.size ≤ 1 then 1
  else if slot.size ≤ 2 then 2
  else if slot.size ≤ 4 then 4
  else 8

/-- Whether the program asked for the slot. -/
def isLocked (slot : StackSlot) : Bool := slot.kind == .locked

/-- Whether the slot holds spilled values. -/
def isSpill (slot : StackSlot) : Bool := slot.kind == .spill

/-- The slot's fingerprint: its kind, size and offset, where none counts as zero. -/
def fingerprint (slot : StackSlot) : UInt32 :=
  (if slot.isSpill then 1 else 0) + slot.size * 3 + (slot.offset?.getD 0).toUInt32 * 7

/-- A slot is written as its kind and number, then its size and offset. -/
def text (slot : StackSlot) : String :=
  (if slot.isSpill then "spill" else "stack") ++ Numeral.decimal slot.id.index.toNat ++
    "<" ++ Numeral.decimal slot.size.toNat ++
    (match slot.offset? with
      | some offset => ", offset = " ++ Numeral.signedDecimal offset.toInt
      | none => "") ++
    ">"

end StackSlot

end BackendIR
