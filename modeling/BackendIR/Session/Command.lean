import BackendIR.Insertion
import BackendIR.Pass
import BackendIR.Procedure.Frame
import BackendIR.Session.Visit

/-!
# Sessions and commands

A session edits one procedure. It has the conventions in use, copies of the
procedure that were saved, a batch of staged instructions, and the report of the
last pass. A command answers or is refused: by a fault, or because it names a
position that does not exist, and then it changes nothing.
-/

namespace BackendIR

/-- The state of an editing session. -/
structure Session where
  procedure : Procedure
  table : ConventionTable
  saved : List Procedure
  staged : Batch Instr
  report? : Option Report

/-- A session at its beginning. -/
def Session.start (table : ConventionTable) : Session where
  procedure := Procedure.empty
  table := table
  saved := []
  staged := Batch.empty
  report? := none

/-- Why a command gave no answer. -/
inductive Refusal where
  | fault (fault : Fault)
  | outOfRange
  deriving DecidableEq

/-- A command in execution. What was edited before a refusal stays. -/
abbrev Edit := ExceptT Refusal (StateM Session)

namespace Edit

variable {α : Type}

/-- Something at a position, which has to exist. -/
def existing : Option α → Edit α
  | some found => return found
  | none => throw .outOfRange

/-- The value of an operation that has to succeed. -/
def succeed : Except Fault α → Edit α
  | .ok value => return value
  | .error fault => throw (.fault fault)

/-- The procedure as it is. -/
def procedure : Edit Procedure := return (← get).procedure

/-- Change the procedure. -/
def modifyProcedure (change : Procedure → Procedure) : Edit Unit :=
  modify fun session => { session with procedure := change session.procedure }

/-- A block that has to exist. -/
def block (id : BlockId) : Edit Block := do
  existing ((← procedure).block? id)

/-- A slot that has to exist. -/
def slot (id : SlotId) : Edit StackSlot := do
  existing ((← procedure).slot? id)

/-- Put a block in place of one that exists. -/
def putBlock (id : BlockId) (block : Block) : Edit Unit :=
  modifyProcedure (·.setBlock id block)

/-- An instruction that has to exist, with its block. -/
def instr (id : BlockId) (position : Nat) : Edit (Block × Instr) := do
  let block ← block id
  return (block, ← existing block.instrs[position]?)

/-- Put an instruction in place of one that exists. -/
def putInstr (id : BlockId) (block : Block) (position : Nat) (instr : Instr) : Edit Unit :=
  putBlock id { block with instrs := block.instrs.set position instr }

/-- A list with two of its elements exchanged; both have to exist. -/
def exchange (elements : List α) (left right : Nat) : Edit (List α) := do
  let first ← existing elements[left]?
  let second ← existing elements[right]?
  return (elements.set left second).set right first

end Edit

/-- One edit of a session, or one question about it. Blocks and slots are named by
number; all else by position. -/
inductive Command where
  | addBlock (frequency? : Option Frequency)
  | addSlot (size : UInt32) (kind : StackSlot.Kind)
  | newTemp (bank : Bank)
  | append (block : BlockId) (instr : Instr)
  | removeInstr (block : BlockId) (position : Nat)
  | setOperand (block : BlockId) (position index : Nat) (operand : Operand)
  | appendOperand (block : BlockId) (position : Nat) (operand : Operand)
  | addSuccessor (block target : BlockId) (frequency : Frequency)
  | setSuccessor (block : BlockId) (position : Nat) (target? : Option BlockId)
      (frequency? : Option Frequency)
  | removeSuccessor (block : BlockId) (position : Nat)
  | setFrequency (block : BlockId) (frequency : Frequency)
  | findBlock (block : BlockId)
  | getBlock (block : BlockId)
  | blockNumber (block : BlockId)
  | swapBlocks (left right : Nat)
  | compareBlocks (left right : Nat)
  | findSlot (slot : SlotId)
  | getSlot (slot : SlotId)
  | growSlot (slot : SlotId) (size : UInt32)
  | placeSlot (slot : SlotId) (offset : Int32)
  | swapSlots (left right : Nat)
  | compareSlots (left right : Nat)
  | growCallArea (size : UInt32)
  | setFrameSize (size : UInt32)
  | pin (register : Register)
  | unpin (register : Register)
  | isPinned (register : Register)
  | pinAll (registers : List Register)
  | rebuildPredecessors
  | check
  | dump
  | describe
  | save
  | restore (position : Nat)
  | reset
  | copyBlock (saved source target : Nat)
  | stage (index : Nat) (instr : Instr)
  | commit (block : BlockId)
  | pending
  | visit (block : BlockId) (position : Nat) (manner : Visit)
  | visitAll (manner : Visit)
  | effects (block : BlockId) (position : Nat)
  | layOut
  | compareReport (early? late? : Option UInt32) (earlyShift lateShift : UInt32)

/-- What a command or a pass answers. -/
inductive Reply where
  | done
  | absent
  | number (value : Nat)
  | flag (value : Bool)
  | text (value : String)
  | temp (value : Temp)
  | instr (value : Instr)
  | block (value : Block)
  | slot (value : StackSlot)
  | procedure (value : Procedure)
  | sources (predecessors : List (List BlockId))
  | insertions (pending : List (Insertion Instr))
  | visited (seen : List Sighting) (instr : Instr)
  | visitedAll (visits : List (Nat × Instr))
  | passed (report : Report) (replies : List Reply)

namespace Command

open Edit

/-- Carry out a command. -/
def run : Command → Edit Reply
  | .addBlock frequency? => do
      let number := (← procedure).nextBlock
      modifyProcedure (·.addBlock (frequency?.getD Frequency.one))
      return .number number.index.toNat
  | .addSlot size kind => do
      let number := (← procedure).nextSlot
      modifyProcedure (·.addSlot size kind)
      return .number number.index.toNat
  | .newTemp bank => do
      let value := (← procedure).nextTemp bank
      modifyProcedure (·.addTemp bank)
      return .temp value
  | .append id instr => do
      let block ← block id
      putBlock id { block with instrs := block.instrs ++ [instr] }
      return .number (block.instrs.length + 1)
  | .removeInstr id position => do
      let (block, removed) ← instr id position
      putBlock id { block with instrs := block.instrs.eraseIdx position }
      return .instr removed
  | .setOperand id position index operand => do
      let (block, instr) ← instr id position
      let _ ← existing instr.operands[index]?
      putInstr id block position { instr with operands := instr.operands.set index operand }
      return .done
  | .appendOperand id position operand => do
      let (block, instr) ← instr id position
      putInstr id block position (instr.append operand)
      return .done
  | .addSuccessor id target frequency => do
      let block ← block id
      putBlock id { block with successors := block.successors ++ [⟨target, frequency⟩] }
      return .done
  | .setSuccessor id position target? frequency? => do
      let block ← block id
      let edge ← existing block.successors[position]?
      let changed : Edge := ⟨target?.getD edge.target, frequency?.getD edge.frequency⟩
      putBlock id { block with successors := block.successors.set position changed }
      return .done
  | .removeSuccessor id position => do
      let block ← block id
      let edge ← existing block.successors[position]?
      putBlock id { block with successors := block.successors.eraseIdx position }
      return .number edge.target.index.toNat
  | .setFrequency id frequency => do
      let block ← block id
      putBlock id { block with frequency }
      return .done
  | .findBlock id => do
      return ((← procedure).block? id).elim .absent .block
  | .getBlock id => return .block (← block id)
  | .blockNumber id => do
      return ((← procedure).block? id).elim .absent (.number ·.id.index.toNat)
  | .swapBlocks left right => do
      let blocks ← exchange (← procedure).blocks left right
      modifyProcedure ({ · with blocks })
      return .done
  | .compareBlocks left right => do
      let blocks := (← procedure).blocks
      return .flag ((← existing blocks[left]?).same (← existing blocks[right]?))
  | .findSlot id => do
      return ((← procedure).slot? id).elim .absent .slot
  | .getSlot id => return .slot (← slot id)
  | .growSlot id size => do
      let grown ← succeed ((← slot id).growTo size)
      modifyProcedure (·.setSlot id grown)
      return .done
  | .placeSlot id offset => do
      match (← procedure).slot? id with
      | some slot =>
          modifyProcedure (·.setSlot id (slot.place offset))
          return .flag true
      | none => return .absent
  | .swapSlots left right => do
      let slots ← exchange (← procedure).slots left right
      modifyProcedure ({ · with slots })
      return .done
  | .compareSlots left right => do
      let slots := (← procedure).slots
      return .flag ((← existing slots[left]?) == (← existing slots[right]?))
  | .growCallArea size => do
      let grown ← succeed ((← procedure).growCallArea size)
      modifyProcedure fun _ => grown
      return .number grown.callArea.toNat
  | .setFrameSize frameSize => do
      modifyProcedure ({ · with frameSize })
      return .done
  | .pin register => do
      modifyProcedure (·.pin register)
      return .done
  | .unpin register => do
      modifyProcedure (·.unpin register)
      return .done
  | .isPinned register => return .flag ((← procedure).pinned.contains register)
  | .pinAll registers => do
      modifyProcedure (·.pinAll (RegisterSet.ofList registers))
      return .done
  | .rebuildPredecessors => do
      let rebuilt ← succeed (← procedure).rebuildPredecessors
      modifyProcedure fun _ => rebuilt
      return .sources (rebuilt.blocks.map Block.predecessors)
  | .check => do
      succeed (← procedure).check
      return .done
  | .dump => return .text (← procedure).dump
  | .describe => return .procedure (← procedure)
  | .save => do
      let session ← get
      set { session with saved := session.saved ++ [session.procedure] }
      return .number session.saved.length
  | .restore position => do
      let copy ← existing (← get).saved[position]?
      modifyProcedure fun _ => copy
      return .done
  | .reset => do
      modifyProcedure fun _ => Procedure.empty
      return .done
  | .copyBlock saved source target => do
      let copy ← existing (← get).saved[saved]?
      let block ← existing copy.blocks[source]?
      let blocks := (← procedure).blocks
      let _ ← existing blocks[target]?
      modifyProcedure ({ · with blocks := blocks.set target block })
      return .done
  | .stage index instr => do
      let session ← get
      let staged := session.staged.add ⟨index, instr⟩
      set { session with staged }
      return .number staged.size
  | .commit id => do
      let block ← block id
      let committed := (← get).staged.commit block.instrs
      putBlock id { block with instrs := committed.target }
      modify ({ · with staged := committed.batch })
      return .number (← succeed committed.outcome)
  | .pending => return .insertions (← get).staged.pending
  | .visit id position manner => do
      let (block, instr) ← instr id position
      let (seen, outcome) := manner.run instr (← get).table
      let visited ← succeed outcome
      putInstr id block position visited
      return .visited seen visited
  | .visitAll manner => do
      let session ← get
      let change (instr : Instr) : Except Fault (Nat × Instr) × Instr :=
        match manner.run instr session.table with
        | (seen, .ok visited) => (.ok (seen.length, visited), visited)
        | (_, .error fault) => (.error fault, instr)
      let (outcome, edited) := session.procedure.sweepInstrs change
      modifyProcedure fun _ => edited
      return .visitedAll (← succeed outcome)
  | .effects id position => do
      let (_, instr) ← instr id position
      return .flag (← succeed (instr.effects (← get).table))
  | .layOut => do
      let session ← get
      let (outcome, edited) := session.procedure.layOut session.table
      modifyProcedure fun _ => edited
      return .number (← succeed outcome).toNat
  | .compareReport early? late? earlyShift lateShift => do
      match (← get).report? with
      | none => return .absent
      | some report =>
          succeed (report.compare (early?.getD report.early + earlyShift)
            (late?.getD report.late + lateShift))
          return .done

end Command

end BackendIR
