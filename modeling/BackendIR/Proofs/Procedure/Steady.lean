import BackendIR.Procedure.Frame
import BackendIR.Proofs.Batch.Commit
import BackendIR.Proofs.Procedure.Rewriting

/-!
# Edits that add nothing

Most edits of a procedure leave it with as many blocks, slots and virtual values as
before, and store references only to those (`BackendIR.Procedure.Steady`). This
holds of everything that works on many places at once: committing a batch,
rebuilding predecessors, changing all instructions in turn, laying out the frame.
-/

namespace BackendIR

/-! ### Batches -/

namespace Batch

variable {α : Type} {batch : Batch α} {target : List α}

/-- Committing stores what was pending or in the target, and nothing else. -/
theorem mem_commit_target {element : α} (member : element ∈ (batch.commit target).target) :
    element ∈ target ∨ ∃ insertion ∈ batch.pending, insertion.element = element := by
  unfold commit at member
  simp only at member
  split at member
  · rcases List.mem_append.mp ((Merge.foldl_result_perm _ _).mem_iff.mp member) with old | new
    · exact .inl old
    · obtain ⟨insertion, pending, same⟩ := List.mem_map.mp new
      exact .inr ⟨insertion, batch.sorted_perm.mem_iff.mp pending, same⟩
  · exact .inl member

/-- What is pending after a commit was pending before. -/
theorem mem_commit_batch {insertion : Insertion α}
    (member : insertion ∈ (batch.commit target).batch.pending) : insertion ∈ batch.pending := by
  unfold commit at member
  simp only at member
  split at member
  · exact absurd member List.not_mem_nil
  · exact batch.sorted_perm.mem_iff.mp member

end Batch

/-! ### Sweeps -/

section Sweep

variable {α β ε : Type} {change : α → Except ε β × α}

private theorem length_sweep (elements : List α) :
    (sweep change elements).2.length = elements.length := by
  fun_induction sweep change elements with
  | case1 => rfl
  | case2 element rest refusal changed _ => rfl
  | case3 element rest result changed _ results others swept ih =>
      rw [swept] at ih
      exact congrArg Nat.succ ih

/-- What every change keeps is kept of all elements. -/
theorem sweep_keeps {fine : α → Prop} (keeps : ∀ element, fine element → fine (change element).2)
    (elements : List α) (started : ∀ element ∈ elements, fine element) :
    ∀ element ∈ (sweep change elements).2, fine element := by
  fun_induction sweep change elements with
  | case1 => exact started
  | case2 element rest refusal changed made =>
      obtain ⟨first, others⟩ := List.forall_mem_cons.mp started
      have kept := keeps element first
      rw [made] at kept
      exact List.forall_mem_cons.mpr ⟨kept, others⟩
  | case3 element rest result changed made results others swept ih =>
      obtain ⟨first, later⟩ := List.forall_mem_cons.mp started
      have kept := keeps element first
      rw [made] at kept
      rw [swept] at ih
      exact List.forall_mem_cons.mpr ⟨kept, ih later⟩

end Sweep

/-! ### Instructions and blocks of a scope -/

/-- A property of all elements survives replacing one by another that has it. -/
theorem forall_mem_set {α : Type} {fine : α → Prop} {elements : List α}
    (stored : ∀ element ∈ elements, fine element) (position : Nat) {element : α}
    (fits : fine element) : ∀ other ∈ elements.set position element, fine other := by
  intro other member
  rcases List.mem_or_eq_of_mem_set member with old | rfl
  · exact stored other old
  · exact fits

/-- A property of all elements survives appending one that has it. -/
theorem forall_mem_concat {α : Type} {fine : α → Prop} {elements : List α}
    (stored : ∀ element ∈ elements, fine element) {element : α} (fits : fine element) :
    ∀ other ∈ elements ++ [element], fine other :=
  List.forall_mem_append.mpr ⟨stored, List.forall_mem_singleton.mpr fits⟩

/-- A property of all elements survives removing one. -/
theorem forall_mem_eraseIdx {α : Type} {fine : α → Prop} {elements : List α}
    (stored : ∀ element ∈ elements, fine element) (position : Nat) :
    ∀ other ∈ elements.eraseIdx position, fine other :=
  fun other member => stored other (List.mem_of_mem_eraseIdx member)

namespace Block

variable {scope : Scope} {block : Block}

/-- A new block refers to nothing. -/
theorem fresh_within (id : BlockId) (frequency : Frequency) :
    (fresh id frequency).Within scope where
  successors := fun _ member => nomatch member
  predecessors := fun _ member => nomatch member
  instrs := fun _ member => nomatch member

/-- Other instructions within the scope keep a block within it. -/
theorem Within.withInstrs (within : block.Within scope) {instrs : List Instr}
    (stored : ∀ instr ∈ instrs, instr.Within scope) : { block with instrs }.Within scope :=
  { within with instrs := stored }

/-- Other edges within the scope keep a block within it. -/
theorem Within.withSuccessors (within : block.Within scope) {successors : List Edge}
    (stored : ∀ edge ∈ successors, scope.blocks edge.target) :
    { block with successors }.Within scope :=
  { within with successors := stored }

/-- Committing instructions within the scope keeps a block within it, also if it is refused. -/
theorem Within.commit (within : block.Within scope) {batch : Batch Instr}
    (pending : ∀ insertion ∈ batch.pending, insertion.element.Within scope) :
    { block with instrs := (batch.commit block.instrs).target }.Within scope := by
  refine within.withInstrs fun instr member => ?_
  rcases Batch.mem_commit_target member with old | ⟨insertion, staged, rfl⟩
  · exact within.instrs instr old
  · exact pending insertion staged

/-- Recording a source of the scope keeps a block within it. -/
theorem Within.addPredecessor (within : block.Within scope) {source : BlockId}
    (known : scope.blocks source) : (block.addPredecessor source).Within scope := by
  unfold Block.addPredecessor
  split
  · exact within
  · exact { within with predecessors := forall_mem_concat within.predecessors known }

end Block

namespace Procedure

/-- A procedure that has as many blocks, slots and virtual values as an original, and
whose blocks refer to nothing beyond these. -/
structure Steady (origin procedure : Procedure) : Prop where
  blocks : procedure.blocks.length = origin.blocks.length
  slots : procedure.slots.length = origin.slots.length
  temps : procedure.tempCount = origin.tempCount
  within : ∀ block ∈ procedure.blocks, block.Within origin.scope

namespace Steady

variable {origin procedure : Procedure}

/-- A steady procedure has the scope of the original. -/
theorem scope_eq (steady : Steady origin procedure) : procedure.scope = origin.scope := by
  simp only [scope, steady.blocks, steady.slots, steady.temps]

/-- As many other blocks within the scope keep a procedure steady. -/
theorem withBlocks (steady : Steady origin procedure) {blocks : List Block}
    (length : blocks.length = procedure.blocks.length)
    (stored : ∀ block ∈ blocks, block.Within origin.scope) :
    Steady origin { procedure with blocks } where
  blocks := length.trans steady.blocks
  slots := steady.slots
  temps := steady.temps
  within := stored

/-- Storing a block within the scope keeps a procedure steady. -/
theorem setBlock (steady : Steady origin procedure) (id : BlockId) {block : Block}
    (within : block.Within origin.scope) : Steady origin (procedure.setBlock id block) :=
  steady.withBlocks List.length_set (forall_mem_set steady.within _ within)

/-- As many other slots keep a procedure steady. -/
theorem withSlots (steady : Steady origin procedure) {slots : List StackSlot}
    (length : slots.length = procedure.slots.length) : Steady origin { procedure with slots } where
  blocks := steady.blocks
  slots := length.trans steady.slots
  temps := steady.temps
  within := steady.within

/-- Slots and frame have no references, and no edit of them changes a count of values. -/
theorem withFrame (steady : Steady origin procedure) (frameSize callArea : UInt32)
    (pinned : RegisterSet) : Steady origin { procedure with frameSize, callArea, pinned } :=
  ⟨steady.blocks, steady.slots, steady.temps, steady.within⟩

/-- A larger call area keeps a procedure steady. -/
theorem growCallArea (steady : Steady origin procedure) {size : UInt32} {grown : Procedure}
    (succeeded : procedure.growCallArea size = .ok grown) : Steady origin grown := by
  unfold Procedure.growCallArea at succeeded
  split at succeeded
  · cases succeeded
    exact steady.withFrame _ _ _
  · cases succeeded

/-- A sweep that keeps every instruction within the scope keeps a procedure steady. -/
theorem sweepInstrs {β ε : Type} {change : Instr → Except ε β × Instr}
    (steady : Steady origin procedure)
    (keeps : ∀ instr, instr.Within origin.scope → (change instr).2.Within origin.scope) :
    Steady origin (procedure.sweepInstrs change).2 := by
  refine steady.withBlocks (length_sweep procedure.blocks) ?_
  refine sweep_keeps (fun block within => ?_) procedure.blocks steady.within
  exact within.withInstrs (sweep_keeps keeps block.instrs within.instrs)

end Steady

/-! ### Predecessors -/

section Record

variable {scope : Scope} {source : BlockId} {blocks : List Block}

private theorem length_recordTargets (targets : List BlockId) :
    (recordTargets source blocks targets).length = blocks.length := by
  induction targets generalizing blocks with
  | nil => rfl
  | cons target rest ih => exact ih.trans (List.length_modify _ _ _)

private theorem recordTargets_within (known : scope.blocks source) (targets : List BlockId)
    (within : ∀ block ∈ blocks, block.Within scope) :
    ∀ block ∈ recordTargets source blocks targets, block.Within scope := by
  induction targets generalizing blocks with
  | nil => exact within
  | cons target rest ih =>
      refine ih fun block member => ?_
      obtain ⟨position, found⟩ := List.mem_iff_getElem?.mp member
      rw [List.getElem?_modify] at found
      obtain ⟨former, placed, rfl⟩ := Option.map_eq_some_iff.mp found
      have kept := within former (List.mem_of_getElem? placed)
      split
      · exact kept.addPredecessor known
      · exact kept

private theorem length_recordEdges (sources : List (Block × Nat)) :
    (recordEdges blocks sources).length = blocks.length := by
  induction sources generalizing blocks with
  | nil => rfl
  | cons source rest ih => exact ih.trans (length_recordTargets _)

/-- Recording the edges of blocks of the scope keeps all blocks within it. -/
theorem recordEdges_within {sources : List (Block × Nat)}
    (known : ∀ source ∈ sources, scope.blocks ⟨UInt32.ofNat source.2⟩)
    (within : ∀ block ∈ blocks, block.Within scope) :
    ∀ block ∈ recordEdges blocks sources, block.Within scope := by
  induction sources generalizing blocks with
  | nil => exact within
  | cons source rest ih =>
      obtain ⟨first, others⟩ := List.forall_mem_cons.mp known
      exact ih others (recordTargets_within first source.1.targets within)

end Record

namespace Steady

variable {origin procedure : Procedure}

/-- Deriving the predecessors anew keeps a procedure steady. -/
theorem rebuildPredecessors {rebuilt : Procedure} (steady : Steady origin procedure)
    (succeeded : procedure.rebuildPredecessors = .ok rebuilt) : Steady origin rebuilt := by
  unfold Procedure.rebuildPredecessors at succeeded
  split at succeeded
  · cases succeeded
  · cases succeeded
    refine steady.withBlocks ((length_recordEdges _).trans (List.length_map _)) ?_
    refine recordEdges_within ?_ ?_
    · rintro ⟨block, position⟩ member
      -- A number that wraps is smaller than the position.
      have below : position < procedure.blocks.length :=
        (List.mem_zipIdx' member).1
      have named : position % UInt32.size ≤ position := Nat.mod_le position UInt32.size
      change position % UInt32.size < origin.blocks.length
      rw [← steady.blocks]
      omega
    · intro cleared member
      obtain ⟨block, stored, rfl⟩ := List.mem_map.mp member
      exact { steady.within block stored with predecessors := fun _ none => nomatch none }

end Steady

/-! ### Frame layout -/

private theorem length_placeSlots (offset : Int32) (slots : List StackSlot) :
    (placeSlots offset slots).1.length = slots.length := by
  fun_induction placeSlots offset slots with
  | case1 => rfl
  | case2 offset slot rest placed others lowest placedRest ih =>
      rw [placedRest] at ih
      exact congrArg Nat.succ ih

/-- Resolving stack storage to an address adds no reference. -/
theorem resolveStack_within {scope : Scope} (procedure : Procedure) {operand : Operand}
    (access : Access) (within : operand.Within scope) :
    (procedure.resolveStack operand access).Within scope := by
  unfold resolveStack
  split
  · split
    · unfold Operand.frameAddress
      simp only
      split
      · exact Operand.address_within_iff.mpr trivial
      · exact Operand.address_within_iff.mpr trivial
    · exact within
  · exact within

/-- Laying out the frame keeps a procedure steady. -/
theorem Steady.layOut {origin procedure : Procedure} (steady : Steady origin procedure)
    (table : ConventionTable) : Steady origin (procedure.layOut table).2 := by
  refine ((steady.withSlots (length_placeSlots 0 procedure.slots)).withFrame _ _ _).sweepInstrs ?_
  intro instr within
  split
  · rename_i resolved _ walked
    refine Instr.updateOperands_keeps (congrArg Prod.fst walked) within fun operand member => ?_
    rw [ask, List.mapM_pure] at member
    obtain ⟨⟨former, access⟩, offered, rfl⟩ := List.mem_map.mp member
    rw [Instr.sightings_eq_zip] at offered
    exact resolveStack_within _ access (within former (List.of_mem_zip offered).1)
  · exact within

end Procedure

end BackendIR
