import BackendIR.Procedure.Basic

/-!
# References

Blocks, slots and virtual values are referred to by number, so a procedure can
name something it does not have. The check finds the first such reference: all
edges come first; then, block by block, the recorded predecessors and the
operands of the instructions.

Predecessors are derived from the edges. Edges are recorded in order of their
source, so each list of predecessors is increasing and free of repetitions.
-/

namespace BackendIR.Procedure

/-- Whether a block number is a position of the procedure. -/
def hasBlock (procedure : Procedure) (id : BlockId) : Bool :=
  id.index.toNat < procedure.blocks.length

/-- Whether a slot number is a position of the procedure. -/
def hasSlot (procedure : Procedure) (id : SlotId) : Bool :=
  id.index.toNat < procedure.slots.length

/-- Whether the procedure has what a value refers to. -/
def hasTemp (procedure : Procedure) : Temp → Bool
  | .virtual bank index => index < procedure.tempCount bank
  | .register _ => true
  | .spilled slot _ => procedure.hasSlot slot

/-- The first edge to a missing block. -/
def danglingSuccessor? (procedure : Procedure) : Option Dangling :=
  procedure.blocks.findSome? fun block =>
    (block.targets.find? (fun target => !procedure.hasBlock target)).map
      (Dangling.successor · block.id)

/-- The first missing thing that an operand of an instruction refers to. -/
def danglingOperand? (procedure : Procedure) (block : BlockId) (instr : Instr)
    (operand : Operand) : Option Dangling :=
  match operand.slot?.filter (fun slot => !procedure.hasSlot slot) with
  | some slot => some (.slot slot instr block)
  | none =>
      (operand.temps.find? (fun value => !procedure.hasTemp value)).map
        (Dangling.temp · instr block)

/-- The first missing thing that an instruction refers to. -/
def danglingInstr? (procedure : Procedure) (block : BlockId) (instr : Instr) :
    Option Dangling :=
  instr.operands.findSome? (procedure.danglingOperand? block instr)

/-- The first missing thing that a block refers to, its edges apart. -/
def danglingBlock? (procedure : Procedure) (block : Block) : Option Dangling :=
  match block.predecessors.find? (fun source => !procedure.hasBlock source) with
  | some source => some (.predecessor source block.id)
  | none => block.instrs.findSome? (procedure.danglingInstr? block.id)

/-- The first missing thing that the procedure refers to. -/
def dangling? (procedure : Procedure) : Option Dangling :=
  procedure.danglingSuccessor?.or (procedure.blocks.findSome? procedure.danglingBlock?)

/-- Refuse a dangling reference. -/
def refuse : Option Dangling → Except Fault Unit
  | some reference => .error (.dangling reference)
  | none => .ok ()

/-- Check that every edge leads to a block. -/
def checkSuccessors (procedure : Procedure) : Except Fault Unit :=
  refuse procedure.danglingSuccessor?

/-- Check that everything the procedure refers to exists. -/
def check (procedure : Procedure) : Except Fault Unit :=
  refuse procedure.dangling?

/-- Record a block as predecessor of each of some targets. -/
def recordTargets (source : BlockId) (blocks : List Block) (targets : List BlockId) :
    List Block :=
  targets.foldl
    (fun blocks target => blocks.modify target.index.toNat (·.addPredecessor source)) blocks

/-- Record the edges of some blocks, each given with its position. -/
def recordEdges (blocks : List Block) (sources : List (Block × Nat)) : List Block :=
  sources.foldl
    (fun blocks source => recordTargets ⟨UInt32.ofNat source.2⟩ blocks source.1.targets) blocks

/-- Derive all predecessors anew from the edges. Nothing changes if an edge leads
to a missing block. -/
def rebuildPredecessors (procedure : Procedure) : Except Fault Procedure :=
  match procedure.checkSuccessors with
  | .error fault => .error fault
  | .ok () =>
      let cleared := procedure.blocks.map fun block => { block with predecessors := [] }
      .ok { procedure with blocks := recordEdges cleared procedure.blocks.zipIdx }

end BackendIR.Procedure
