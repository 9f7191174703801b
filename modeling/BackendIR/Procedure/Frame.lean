import BackendIR.Instr.Walk
import BackendIR.Procedure.Basic

/-!
# Frame layout

A plain layout of the frame: slots go below the frame pointer one after another,
each at an offset that is a multiple of its alignment; the frame is aligned to
the stack; and stack storage in operands becomes an address. All arithmetic wraps
at 32 bits.
-/

namespace BackendIR

/-- Change the elements of a list in order, until one of them is refused. What was
changed up to then stays changed. -/
def sweep {α β ε : Type} (change : α → Except ε β × α) : List α → Except ε (List β) × List α
  | [] => (.ok [], [])
  | element :: rest =>
      match change element with
      | (.error refusal, changed) => (.error refusal, changed :: rest)
      | (.ok result, changed) =>
          let (results, others) := sweep change rest
          (results.map (result :: ·), changed :: others)

namespace Procedure

/-- Change the instructions of all blocks in order, until one of them is refused. -/
def sweepInstrs {β ε : Type} (procedure : Procedure) (change : Instr → Except ε β × Instr) :
    Except ε (List β) × Procedure :=
  let (results, blocks) := sweep
    (fun block : Block =>
      let (results, instrs) := sweep change block.instrs
      (results, { block with instrs }))
    procedure.blocks
  (results.map List.flatten, { procedure with blocks })

/-- Place slots below an offset, and return the lowest offset reached. -/
def placeSlots (offset : Int32) : List StackSlot → List StackSlot × Int32
  | [] => ([], offset)
  | slot :: rest =>
      let placed := (offset - slot.size.toInt32) &&& -slot.alignment.toInt32
      let (others, lowest) := placeSlots placed rest
      (slot.place placed :: others, lowest)

/-- The depth below the frame pointer, rounded up to the stack alignment. -/
def frameSizeFor (lowest : Int32) : UInt32 :=
  let depth := (-lowest).toUInt32
  (depth / 16 + if depth % 16 = 0 then 0 else 1) * 16

/-- The frame address that stack storage becomes; other operands stay, and so does
storage whose slot is missing. -/
def resolveStack (procedure : Procedure) (operand : Operand) (access : Access) : Operand :=
  match operand with
  | .stack id offset =>
      match procedure.slot? id with
      | some slot =>
          Operand.frameAddress (slot.offset?.getD 0 + offset) procedure.frameSize access.width
      | none => operand
  | _ => operand

/-- Lay out the frame. An instruction that cannot be surveyed ends the change of
operands; the result is the frame size. -/
def layOut (procedure : Procedure) (table : ConventionTable) :
    Except Fault UInt32 × Procedure :=
  let (slots, lowest) := placeSlots 0 procedure.slots
  let placed := { procedure with slots, frameSize := frameSizeFor lowest }
  let resolve (instr : Instr) : Except Fault Unit × Instr :=
    match (instr.updateOperands table fun operand access =>
        (pure (placed.resolveStack operand access) : StateM Unit Operand)).run () with
    | (.ok resolved, _) => (.ok (), resolved)
    | (.error fault, _) => (.error fault, instr)
  let (outcome, finished) := placed.sweepInstrs resolve
  (outcome.map (fun _ => placed.frameSize), finished)

end Procedure

end BackendIR
