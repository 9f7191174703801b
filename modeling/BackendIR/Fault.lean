import BackendIR.Instr.Basic

/-!
# Faults

Every way in which an operation can be refused, by its cause. The wording of all
messages is in this module.
-/

namespace BackendIR

/-- The number of a block in its procedure. -/
structure BlockId where
  index : UInt32
  deriving DecidableEq

/-- A block number is written `#N`. -/
def BlockId.text (block : BlockId) : String :=
  "#" ++ Numeral.decimal block.index.toNat

/-- Why an instruction's operands cannot be made sense of. -/
inductive Malformation where
  /-- The third operand of a parallel move is not a width. -/
  | notAWidth (tag : Operand)
  /-- A patch that does not describe its operands. -/
  | missingPatch
  /-- A patch that describes more or fewer operands than there are. -/
  | accessCount (accesses operands : Nat)
  /-- A call with no signature. -/
  | missingSignature
  /-- A call with more or fewer operands than its signature asks for. -/
  | operandCount (expected found : Nat)
  /-- An argument of a type that has no values. -/
  | notAnOperandType (type : ValueType)
  deriving DecidableEq

/-- The reason in words. -/
def Malformation.message : Malformation → String
  | .notAWidth tag => "shuffle width tag " ++ tag.text ++ " is not a width"
  | .missingPatch => "missing patch metadata"
  | .accessCount accesses operands =>
      Numeral.decimal accesses ++ " operand specs for " ++ Numeral.decimal operands ++ " operands"
  | .missingSignature => "missing call signature"
  | .operandCount expected found =>
      "expected " ++ Numeral.decimal expected ++ " operands, found " ++ Numeral.decimal found
  | .notAnOperandType type => type.name ++ " is not an operand type"

/-- A reference to something that its procedure does not have, and the block that
holds the reference. -/
inductive Dangling where
  | successor (target block : BlockId)
  | predecessor (source block : BlockId)
  | slot (missing : SlotId) (instr : Instr) (block : BlockId)
  | temp (missing : Temp) (instr : Instr) (block : BlockId)
  deriving DecidableEq

/-- What is missing for a value: its number, or the slot it is kept in. -/
def Dangling.tempMessage (value : Temp) : String :=
  match value with
  | .virtual bank _ => value.text ++ " beyond the " ++ bank.text ++ " tmp arena"
  | .register _ | .spilled _ _ => value.text ++ " names a missing stack slot"

/-- The dangling reference in words. -/
def Dangling.message : Dangling → String
  | .successor target block => "successor " ++ target.text ++ " of block " ++ block.text
  | .predecessor source block => "predecessor " ++ source.text ++ " of block " ++ block.text
  | .slot missing instr block => missing.text ++ " in `" ++ instr.text ++ "` of block " ++ block.text
  | .temp missing instr block =>
      tempMessage missing ++ " in `" ++ instr.text ++ "` of block " ++ block.text

/-- Before or after a pass. -/
inductive Stage where
  | early
  | late
  deriving DecidableEq

/-- The stage's name. -/
def Stage.text : Stage → String
  | .early => "early"
  | .late => "late"

/-- The cause of a refusal. -/
inductive Fault where
  /-- A slot that has its place in the frame cannot grow. -/
  | slotPlaced (slot : SlotId) (offset : Int32)
  /-- An insertion behind the end of its target. -/
  | outOfBounds (index length : Nat)
  /-- An insertion that stands behind one with a larger index. -/
  | outOfOrder (index previous : Nat)
  /-- An opcode with no convention. -/
  | unrecognized (opcode : String)
  /-- An opcode with no form of the given number of operands. -/
  | noForm (opcode : String) (arity : Nat)
  /-- An instruction whose operands do not fit its opcode. -/
  | malformed (opcode : String) (reason : Malformation)
  /-- A call argument area too large to be aligned. -/
  | areaTooLarge (size : UInt32)
  /-- More bytes than any width covers. -/
  | badWidth (bytes : UInt32)
  /-- A reference to something missing. -/
  | dangling (reference : Dangling)
  /-- A fingerprint that differs from the expected one. -/
  | mismatch (pass : String) (stage : Stage) (expected actual : UInt32)
  deriving DecidableEq

/-- The fault in words. -/
def Fault.message : Fault → String
  | .slotPlaced slot offset =>
      "Stack slot " ++ Numeral.decimal slot.index.toNat ++ " already allocated at offset " ++
        Numeral.signedDecimal offset.toInt ++ " from FP"
  | .outOfBounds index length =>
      "Out-of-bounds insertion at index " ++ Numeral.decimal index ++
        " into a sequence of length " ++ Numeral.decimal length
  | .outOfOrder index previous =>
      "Insertions out of order: index " ++ Numeral.decimal index ++
        " sorted after index " ++ Numeral.decimal previous
  | .unrecognized opcode => "Unrecognized opcode: " ++ opcode
  | .noForm opcode arity => "No " ++ Numeral.decimal arity ++ "-operand form of " ++ opcode
  | .malformed opcode reason => "Malformed " ++ opcode ++ " instruction: " ++ reason.message
  | .areaTooLarge size =>
      "Call argument area of " ++ Numeral.decimal size.toNat ++
        " bytes cannot be aligned to the stack"
  | .badWidth bytes => "Bad number of bytes: " ++ Numeral.decimal bytes.toNat
  | .dangling reference => "Dangling reference: " ++ reference.message
  | .mismatch pass stage expected actual =>
      "Hash mismatch after " ++ pass ++ " (" ++ stage.text ++ "): expected " ++
        Numeral.hexWord expected ++ ", got " ++ Numeral.hexWord actual

/-- The narrowest width that covers a number of bytes. -/
def Width.ofBytes (bytes : UInt32) : Except Fault Width :=
  match ofBytes? bytes with
  | some width => .ok width
  | none => .error (.badWidth bytes)

end BackendIR
