import BackendIR.Proofs.Procedure.Steady
import BackendIR.Proofs.Session.Edit

/-!
# Commands that add nothing

A command that does not add a block, a slot or a virtual value, and supplies
references within the scope of the procedure only, leaves a session steady
(`BackendIR.Command.run_steady`), whether it is answered or refused.
-/

namespace BackendIR

/-- The procedure is steady, and everything staged refers to parts of the original. -/
structure Session.Steady (origin : Procedure) (session : Session) : Prop where
  procedure : Procedure.Steady origin session.procedure
  staged : ∀ insertion ∈ session.staged.pending, insertion.element.Within origin.scope

/-! ### Steps -/

namespace Edit

variable {origin : Procedure}

/-- An edit of a steady session reads a steady procedure. -/
theorem keeps_procedure :
    Keeps (Session.Steady origin) Edit.procedure (Procedure.Steady origin) :=
  .procedure fun _ steady => steady.procedure

/-- A change that keeps procedures steady keeps the session steady. -/
theorem keeps_modifyProcedure {change : Procedure → Procedure}
    (stays : ∀ procedure, Procedure.Steady origin procedure →
      Procedure.Steady origin (change procedure)) :
    Keeps (Session.Steady origin) (modifyProcedure change) fun _ => True :=
  .modify fun session steady => ⟨stays session.procedure steady.procedure, steady.staged⟩

/-- A block that is looked up refers to parts of the original. -/
theorem keeps_block (id : BlockId) :
    Keeps (Session.Steady origin) (Edit.block id) (Block.Within origin.scope) := by
  refine keeps_procedure.bind fun procedure steady => .existing fun block found => ?_
  exact steady.within block (List.mem_of_getElem? found)

/-- Looking up a slot keeps the session steady. -/
theorem keeps_slot (id : SlotId) :
    Keeps (Session.Steady origin) (Edit.slot id) fun _ => True :=
  keeps_procedure.bind fun _ _ => .existing fun _ _ => trivial

/-- An instruction that is looked up refers to parts of the original, and so does its block. -/
theorem keeps_instr (id : BlockId) (position : Nat) :
    Keeps (Session.Steady origin) (Edit.instr id position) fun placed =>
      placed.1.Within origin.scope ∧ placed.2.Within origin.scope := by
  refine (keeps_block id).bind fun block within => ?_
  have stored : ∀ instr ∈ block.instrs[position]?, instr.Within origin.scope :=
    fun instr found => within.instrs instr (List.mem_of_getElem? found)
  exact (Keeps.existing stored).bind fun instr fine => .pure ⟨within, fine⟩

/-- Storing a block that refers to parts of the original keeps the session steady. -/
theorem keeps_putBlock (id : BlockId) {block : Block} (within : block.Within origin.scope) :
    Keeps (Session.Steady origin) (putBlock id block) fun _ => True :=
  keeps_modifyProcedure fun _ steady => steady.setBlock id within

/-- Storing an instruction that refers to parts of the original keeps the session steady. -/
theorem keeps_putInstr (id : BlockId) (position : Nat) {block : Block} {instr : Instr}
    (within : block.Within origin.scope) (fine : instr.Within origin.scope) :
    Keeps (Session.Steady origin) (putInstr id block position instr) fun _ => True :=
  keeps_putBlock id (within.withInstrs (forall_mem_set within.instrs position fine))

/-- Exchanging two elements gives as many elements, and no others. -/
theorem keeps_exchange {α : Type} (elements : List α) (left right : Nat) :
    Keeps (Session.Steady origin) (exchange elements left right) fun exchanged =>
      exchanged.length = elements.length ∧ ∀ element ∈ exchanged, element ∈ elements := by
  have stored (position : Nat) : ∀ element ∈ elements[position]?, element ∈ elements :=
    fun _ found => List.mem_of_getElem? found
  refine (Keeps.existing (stored left)).bind fun first firstIn => ?_
  refine (Keeps.existing (stored right)).bind fun second secondIn => ?_
  refine .pure ⟨List.length_set.trans List.length_set, ?_⟩
  exact forall_mem_set (forall_mem_set (fun _ member => member) left secondIn) right firstIn

end Edit

/-! ### Commands -/

namespace Command

/-- The command adds a block, a slot or a virtual value. -/
def Adds : Command → Prop
  | .addBlock _ | .addSlot _ _ | .newTemp _ => True
  | _ => False

/-- The command edits the procedure at hand, and every reference that it supplies, in an
operand or as the target of an edge, lies within a scope. -/
def Within (scope : Scope) : Command → Prop
  | .append _ instr | .stage _ instr => instr.Within scope
  | .setOperand _ _ _ operand | .appendOperand _ _ operand => operand.Within scope
  | .addSuccessor _ target _ => scope.blocks target
  | .setSuccessor _ _ target? _ => ∀ target ∈ target?, scope.blocks target
  | .visit _ _ manner | .visitAll manner => manner.Within scope
  | .restore _ | .reset | .copyBlock _ _ _ => False
  | _ => True

/-- A command that names only parts of a scope names only parts of every larger one. -/
theorem Within.mono {smaller larger : Scope} (below : smaller.Below larger) {command : Command}
    (within : command.Within smaller) : command.Within larger := by
  cases command with
  | append _ _ | stage _ _ => exact Instr.Within.mono below within
  | setOperand _ _ _ _ | appendOperand _ _ _ => exact Operand.Within.mono below within
  | addSuccessor _ target _ => exact below.blocks target within
  | setSuccessor _ _ target? _ =>
      exact fun target given => below.blocks target (within target given)
  | visit _ _ _ | visitAll _ => exact Visit.Within.mono below within
  | _ => exact within

open Edit

variable {origin : Procedure}

/-- **Commands that add nothing.** A command that adds no block, slot or value and names only
parts of the original keeps the session steady. -/
theorem run_steady {command : Command} (within : command.Within origin.scope)
    (adds : ¬ command.Adds) : Keeps (Session.Steady origin) command.run fun _ => True := by
  cases command with
  | addBlock _ | addSlot _ _ | newTemp _ => exact absurd trivial adds
  | restore _ | reset | copyBlock _ _ _ => exact within.elim
  | append id instr =>
      refine (keeps_block id).bind fun block stored => .answered (keeps_putBlock id ?_) _
      exact stored.withInstrs (forall_mem_concat stored.instrs within)
  | removeInstr id position =>
      refine (keeps_instr id position).bind fun ⟨block, removed⟩ ⟨stored, _⟩ => ?_
      refine .answered (keeps_putBlock id ?_) _
      exact stored.withInstrs (forall_mem_eraseIdx stored.instrs position)
  | setOperand id position index operand =>
      refine (keeps_instr id position).bind fun ⟨block, instr⟩ ⟨stored, fine⟩ => ?_
      refine (Keeps.lookup _).bind fun _ _ => .answered (keeps_putInstr id position stored ?_) _
      exact forall_mem_set fine index within
  | appendOperand id position operand =>
      refine (keeps_instr id position).bind fun ⟨block, instr⟩ ⟨stored, fine⟩ => ?_
      refine .answered (keeps_putInstr id position stored ?_) _
      exact forall_mem_concat fine within
  | addSuccessor id target frequency =>
      refine (keeps_block id).bind fun block stored => .answered (keeps_putBlock id ?_) _
      exact stored.withSuccessors (forall_mem_concat stored.successors within)
  | setSuccessor id position target? frequency? =>
      refine (keeps_block id).bind fun block stored => ?_
      have found : ∀ edge ∈ block.successors[position]?, origin.scope.blocks edge.target :=
        fun edge here => stored.successors edge (List.mem_of_getElem? here)
      refine (Keeps.existing found).bind fun edge known => .answered (keeps_putBlock id ?_) _
      refine stored.withSuccessors (forall_mem_set stored.successors position ?_)
      cases target? with
      | none => exact known
      | some target => exact within target rfl
  | removeSuccessor id position =>
      refine (keeps_block id).bind fun block stored => (Keeps.lookup _).bind fun edge _ => ?_
      refine .answered (keeps_putBlock id ?_) _
      exact stored.withSuccessors (forall_mem_eraseIdx stored.successors position)
  | setFrequency id frequency =>
      refine (keeps_block id).bind fun block stored => .answered (keeps_putBlock id ?_) _
      exact { stored with }
  | findBlock id => exact keeps_procedure.bind fun _ _ => .answer _
  | getBlock id => exact (keeps_block id).bind fun _ _ => .answer _
  | blockNumber id => exact keeps_procedure.bind fun _ _ => .answer _
  | swapBlocks left right =>
      refine keeps_procedure.bind fun procedure steady => ?_
      refine (keeps_exchange procedure.blocks left right).bind fun blocks ⟨length, stored⟩ => ?_
      refine .answered (keeps_modifyProcedure fun current now => ?_) _
      -- The blocks were read earlier; of the procedure now, only the lengths count.
      refine now.withBlocks ?_ fun block member => steady.within block (stored block member)
      exact length.trans (steady.blocks.trans now.blocks.symm)
  | compareBlocks left right =>
      refine keeps_procedure.bind fun _ _ => (Keeps.lookup _).bind fun _ _ => ?_
      exact (Keeps.lookup _).bind fun _ _ => .answer _
  | findSlot id => exact keeps_procedure.bind fun _ _ => .answer _
  | getSlot id => exact (keeps_slot id).bind fun _ _ => .answer _
  | growSlot id size =>
      refine (keeps_slot id).bind fun _ _ => (Keeps.attempt _).bind fun _ _ => ?_
      exact .answered (keeps_modifyProcedure fun _ steady => steady.withSlots List.length_set) _
  | placeSlot id offset =>
      refine keeps_procedure.bind fun _ _ => ?_
      split
      · exact .answered (keeps_modifyProcedure fun _ steady => steady.withSlots List.length_set) _
      · exact .answer _
  | swapSlots left right =>
      refine keeps_procedure.bind fun procedure steady => ?_
      refine (keeps_exchange procedure.slots left right).bind fun slots ⟨length, _⟩ => ?_
      refine .answered (keeps_modifyProcedure fun current now => ?_) _
      exact now.withSlots (length.trans (steady.slots.trans now.slots.symm))
  | compareSlots left right =>
      refine keeps_procedure.bind fun _ _ => (Keeps.lookup _).bind fun _ _ => ?_
      exact (Keeps.lookup _).bind fun _ _ => .answer _
  | growCallArea size =>
      refine keeps_procedure.bind fun procedure steady => ?_
      refine (Keeps.succeed fun _ grown => steady.growCallArea grown).bind fun _ kept => ?_
      exact .answered (keeps_modifyProcedure fun _ _ => kept) _
  | setFrameSize size =>
      exact .answered (keeps_modifyProcedure fun _ steady => steady.withFrame _ _ _) _
  | pin register =>
      exact .answered (keeps_modifyProcedure fun _ steady => steady.withFrame _ _ _) _
  | unpin register =>
      exact .answered (keeps_modifyProcedure fun _ steady => steady.withFrame _ _ _) _
  | isPinned register => exact keeps_procedure.bind fun _ _ => .answer _
  | pinAll registers =>
      exact .answered (keeps_modifyProcedure fun _ steady => steady.withFrame _ _ _) _
  | rebuildPredecessors =>
      refine keeps_procedure.bind fun procedure steady => ?_
      refine (Keeps.succeed fun _ built => steady.rebuildPredecessors built).bind fun _ kept => ?_
      exact .answered (keeps_modifyProcedure fun _ _ => kept) _
  | check => exact keeps_procedure.bind fun _ _ => .answered (.attempt _) _
  | dump => exact keeps_procedure.bind fun _ _ => .answer _
  | describe => exact keeps_procedure.bind fun _ _ => .answer _
  | save =>
      refine Keeps.get.bind fun session steady => .answered (.set ?_) _
      exact ⟨steady.procedure, steady.staged⟩
  | stage index instr =>
      refine Keeps.get.bind fun session steady => .answered (.set ?_) _
      exact ⟨steady.procedure, forall_mem_concat steady.staged within⟩
  | commit id =>
      refine (keeps_block id).bind fun block stored => Keeps.get.bind fun session steady => ?_
      refine (keeps_putBlock id (stored.commit steady.staged)).bind fun _ _ => ?_
      -- The batch is written back also when the commit is refused.
      refine (Keeps.modify fun current now => ⟨now.procedure, ?_⟩).bind fun _ _ =>
        (Keeps.attempt _).bind fun _ _ => .answer _
      exact fun insertion member => steady.staged insertion (Batch.mem_commit_batch member)
  | pending => exact Keeps.get.bind fun _ _ => .answer _
  | visit id position manner =>
      refine (keeps_instr id position).bind fun ⟨block, instr⟩ ⟨stored, fine⟩ => ?_
      refine Keeps.get.bind fun session _ => ?_
      refine (Keeps.succeed fun visited ran => Visit.run_within fine within ran).bind ?_
      exact fun visited kept => .answered (keeps_putInstr id position stored kept) _
  | visitAll manner =>
      refine Keeps.get.bind fun session steady => ?_
      refine (keeps_modifyProcedure fun _ _ => steady.procedure.sweepInstrs ?_).bind fun _ _ =>
        (Keeps.attempt _).bind fun _ _ => .answer _
      intro instr fine
      split
      · rename_i ran
        exact Visit.run_within fine within (congrArg Prod.snd ran)
      · exact fine
  | effects id position =>
      exact (keeps_instr id position).bind fun _ _ => Keeps.get.bind fun _ _ =>
        (Keeps.attempt _).bind fun _ _ => .answer _
  | layOut =>
      refine Keeps.get.bind fun session steady => ?_
      exact (keeps_modifyProcedure fun _ _ => steady.procedure.layOut session.table).bind
        fun _ _ => (Keeps.attempt _).bind fun _ _ => .answer _
  | compareReport early? late? earlyShift lateShift =>
      refine Keeps.get.bind fun session _ => ?_
      split
      · exact .answer _
      · exact .answered (.attempt _) _

end Command

end BackendIR
