import BackendIR.Fault
import BackendIR.Frequency

/-!
# Blocks

A block is a run of instructions with weighted edges to the blocks that may
follow it. The blocks that may come before it are derived from those edges.
-/

namespace BackendIR

/-- An edge of the control flow and how often it is taken. -/
structure Edge where
  target : BlockId
  frequency : Frequency
  deriving DecidableEq

/-- A run of instructions, with its own number. -/
structure Block where
  id : BlockId
  frequency : Frequency
  instrs : List Instr
  successors : List Edge
  predecessors : List BlockId
  deriving DecidableEq

/-- Whether two edges have one target and numerically equal weights. -/
def Edge.same (left right : Edge) : Bool :=
  left.target == right.target && left.frequency.sameNumber right.frequency

namespace Block

/-- A block with no instructions and no edges. -/
def fresh (id : BlockId) (frequency : Frequency) : Block :=
  ⟨id, frequency, [], [], []⟩

/-- The blocks that may follow, one for each edge. -/
def targets (block : Block) : List BlockId :=
  block.successors.map Edge.target

/-- Whether two blocks agree in every part: weights are compared as numbers, and
instructions up to opcode names. -/
def same (left right : Block) : Bool :=
  left.id == right.id && left.frequency.sameNumber right.frequency &&
    left.instrs.isEqv right.instrs Instr.same &&
    left.successors.isEqv right.successors Edge.same &&
    left.predecessors == right.predecessors

/-- Record that control may come from a block, unless that is known. -/
def addPredecessor (block : Block) (source : BlockId) : Block :=
  if block.predecessors.contains source then block
  else { block with predecessors := block.predecessors ++ [source] }

/-- Fold the block's instructions and edges into a fingerprint, in wrapping 32-bit
arithmetic. Weights, predecessors and the block's number are left out. -/
def fold (sum : UInt32) (block : Block) : UInt32 :=
  let afterInstrs := block.instrs.foldl
    (fun sum instr => sum * 97 + instr.fingerprint) (sum * 1000001)
  block.targets.foldl (fun sum target => sum * 7 + target.index) afterInstrs

/-- A line that names some blocks, or no line when there are none. -/
def blocksLine (label : String) : List BlockId → List String
  | [] => []
  | blocks => [label ++ Listing.commas (blocks.map BlockId.text)]

/-- The block with its instructions and edges, line by line. -/
def lines (block : Block) : List String :=
  ["BB" ++ block.id.text ++ ": ; frequency = " ++ block.frequency.text] ++
    blocksLine "  Predecessors: " block.predecessors ++
    block.instrs.map (fun instr => "    " ++ instr.text) ++
    blocksLine "  Successors: " block.targets

/-- The lines of the block as one text. -/
def dump (block : Block) : String :=
  Listing.lines block.lines

end Block

end BackendIR
