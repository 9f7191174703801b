import BackendIR.Listing
import BackendIR.Operand.Text

/-!
# Instructions

An instruction is an opcode, a list of operands, and metadata that some opcodes
need to make sense of their operands. An opcode is known by its code; its name is
only for printing, so instructions that differ in opcode names alone are the same.
-/

namespace BackendIR

/-- An operation: a code, and a name to print. -/
structure Opcode where
  code : UInt16
  name : String
  deriving DecidableEq

/-- Whether two opcodes denote one operation. -/
def Opcode.same (left right : Opcode) : Bool :=
  left.code == right.code

/-- Opcodes are the same if they have one code, whatever they are called. -/
theorem Opcode.same_iff {left right : Opcode} : left.same right = true ↔ left.code = right.code :=
  beq_iff_eq

/-- The types of a call's result and arguments. -/
structure Signature where
  result : ValueType
  arguments : List ValueType
  deriving DecidableEq

/-- What an instruction says about its own operands. -/
inductive Metadata where
  /-- Nothing. -/
  | none
  /-- One access for each operand, and whether the instruction has effects that
  show neither in its operands nor in control flow. -/
  | patch (accesses : List Access) (effects : Bool)
  /-- The signature of a called function. -/
  | call (signature : Signature)
  deriving DecidableEq

/-- An instruction. -/
structure Instr where
  opcode : Opcode
  operands : List Operand
  metadata : Metadata
  deriving DecidableEq

namespace Instr

/-- Whether two instructions agree in all but the opcodes' names. -/
def same (left right : Instr) : Bool :=
  left.opcode.same right.opcode && left.operands == right.operands &&
    left.metadata == right.metadata

/-- The opcode's name, then the operands, separated by commas. -/
def text (instr : Instr) : String :=
  match instr.operands with
  | [] => instr.opcode.name
  | operands => instr.opcode.name ++ " " ++ Listing.commas (operands.map Operand.text)

/-- The opcode's code plus the fingerprints of all operands, in wrapping 32-bit
arithmetic. The order of the operands does not matter. -/
def fingerprint (instr : Instr) : UInt32 :=
  instr.operands.foldl (fun sum operand => sum + operand.fingerprint) instr.opcode.code.toUInt32

/-- The instruction with an operand added at the end. -/
def append (instr : Instr) (operand : Operand) : Instr :=
  { instr with operands := instr.operands ++ [operand] }

end Instr

end BackendIR
