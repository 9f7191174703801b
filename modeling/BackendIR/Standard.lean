import BackendIR.Convention

/-!
# The standard opcodes

The opcodes that every client has, numbered in order, and the table of their
conventions.
-/

namespace BackendIR.Standard

/-- Does nothing. -/
def nop : Opcode := ⟨0, "Nop"⟩

/-- Copies a 64-bit value. -/
def move : Opcode := ⟨1, "Move"⟩

/-- Copies a 32-bit value and clears the upper half. -/
def move32 : Opcode := ⟨2, "Move32"⟩

/-- Copies a floating point value. -/
def moveDouble : Opcode := ⟨3, "MoveDouble"⟩

/-- Adds 32-bit values. -/
def add32 : Opcode := ⟨4, "Add32"⟩

/-- Adds 64-bit values. -/
def add64 : Opcode := ⟨5, "Add64"⟩

/-- Adds floating point values. -/
def addDouble : Opcode := ⟨6, "AddDouble"⟩

/-- Subtracts 32-bit values. -/
def sub32 : Opcode := ⟨7, "Sub32"⟩

/-- Subtracts 64-bit values. -/
def sub64 : Opcode := ⟨8, "Sub64"⟩

/-- Multiplies 32-bit values. -/
def mul32 : Opcode := ⟨9, "Mul32"⟩

/-- Computes an address. -/
def lea : Opcode := ⟨10, "Lea"⟩

/-- Branches on a comparison. -/
def branch32 : Opcode := ⟨11, "Branch32"⟩

/-- Branches on a bit test. -/
def branchTest32 : Opcode := ⟨12, "BranchTest32"⟩

/-- Branches always. -/
def jump : Opcode := ⟨13, "Jump"⟩

/-- Returns a 32-bit value. -/
def ret32 : Opcode := ⟨14, "Ret32"⟩

/-- Returns a 64-bit value. -/
def ret64 : Opcode := ⟨15, "Ret64"⟩

/-- Marks a place that is never reached. -/
def oops : Opcode := ⟨16, "Oops"⟩

/-- Orders memory accesses. -/
def memoryFence : Opcode := ⟨17, "MemoryFence"⟩

/-- Moves values in parallel. -/
def shuffle : Opcode := ⟨18, "Shuffle"⟩

/-- Runs code that the instruction itself describes. -/
def patch : Opcode := ⟨19, "Patch"⟩

/-- Calls a native function. -/
def call : Opcode := ⟨20, "CCall"⟩

/-- Calls a native function on a cold path. -/
def coldCall : Opcode := ⟨21, "ColdCCall"⟩

/-- The form of a two-operand operation that also writes its second operand, and
the form that writes a third one. -/
def accumulating (bank : Bank) (width : Width) (inPlace fresh : Role) : List (List Access) :=
  let source : Access := ⟨.use, bank, width⟩
  [[source, ⟨inPlace, bank, width⟩], [source, source, ⟨fresh, bank, width⟩]]

/-- A single form of uses only. -/
def reading (width : Width) (count : Nat) : List (List Access) :=
  [List.replicate count ⟨.use, .gp, width⟩]

/-- The standard conventions, in the order of the codes. A branch has its condition
first and then the compared values. -/
def bindings : List (Opcode × Convention) :=
  [(nop, .fixed [[]] false),
    (move, .fixed [[⟨.use, .gp, .w64⟩, ⟨.define, .gp, .w64⟩]] false),
    (move32, .fixed [[⟨.use, .gp, .w32⟩, ⟨.zeroDefine, .gp, .w32⟩]] false),
    (moveDouble, .fixed [[⟨.use, .fp, .w64⟩, ⟨.define, .fp, .w64⟩]] false),
    (add32, .fixed (accumulating .gp .w32 .useZeroDefine .zeroDefine) false),
    (add64, .fixed (accumulating .gp .w64 .useDefine .define) false),
    (addDouble, .fixed (accumulating .fp .w64 .useDefine .define) false),
    (sub32, .fixed [[⟨.use, .gp, .w32⟩, ⟨.useZeroDefine, .gp, .w32⟩]] false),
    (sub64, .fixed [[⟨.use, .gp, .w64⟩, ⟨.useDefine, .gp, .w64⟩]] false),
    (mul32, .fixed (accumulating .gp .w32 .useZeroDefine .zeroDefine) false),
    (lea, .fixed [[⟨.useAddress, .gp, .w64⟩, ⟨.define, .gp, .w64⟩]] false),
    (branch32, .fixed (reading .w32 3) false),
    (branchTest32, .fixed (reading .w32 3) false),
    (jump, .fixed [[]] false),
    (ret32, .fixed (reading .w32 1) false),
    (ret64, .fixed (reading .w64 1) false),
    (oops, .fixed [[]] true),
    (memoryFence, .fixed [[]] true),
    (shuffle, .derived .shuffle),
    (patch, .derived .patch),
    (call, .derived .call),
    (coldCall, .derived .coldCall)]

/-- The standard opcodes in the order of their codes. -/
def opcodes : List Opcode :=
  bindings.map Prod.fst

/-- The table of the standard conventions. -/
def table : ConventionTable :=
  ConventionTable.empty.bindAll bindings

end BackendIR.Standard
