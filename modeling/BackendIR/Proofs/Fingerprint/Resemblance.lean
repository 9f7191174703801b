import Mathlib.Data.List.Forall2
import BackendIR.Proofs.Procedure.Predecessors
import BackendIR.Session.Script

/-!
# What fingerprints leave out

Procedures resemble each other if they agree, position by position, on opcode codes,
on operands up to their order, on the targets of edges, and on kind, size and offset of
slots (`BackendIR.Procedure.Resembles`). Nothing else enters a fingerprint: weights,
predecessors, numbers of blocks and slots, names, metadata, counters, the frame and
pinned registers may all differ
(`BackendIR.Procedure.Resembles.fingerprint_eq`). A command that touches only those leads
to a procedure that resembles the one before, whether it is answered or refused, and a
run of such commands keeps the fingerprint all along
(`BackendIR.Procedure.fingerprint_ignores_the_rest`).
-/

namespace BackendIR

/-! ### Resemblance -/

structure Instr.Resembles (left right : Instr) : Prop where
  code : left.opcode.code = right.opcode.code
  operands : left.operands.Perm right.operands

structure Block.Resembles (left right : Block) : Prop where
  instrs : List.Forall₂ Instr.Resembles left.instrs right.instrs
  targets : left.targets = right.targets

/-- A slot without an offset counts as one at offset zero. -/
structure StackSlot.Resembles (left right : StackSlot) : Prop where
  kind : left.kind = right.kind
  size : left.size = right.size
  offset : left.offset?.getD 0 = right.offset?.getD 0

structure Procedure.Resembles (left right : Procedure) : Prop where
  blocks : List.Forall₂ Block.Resembles left.blocks right.blocks
  slots : List.Forall₂ StackSlot.Resembles left.slots right.slots

private theorem Instr.Resembles.refl (instr : Instr) : instr.Resembles instr :=
  ⟨rfl, .refl _⟩

/-- Blocks with the same instructions and targets resemble each other. -/
theorem Block.resembles_of_eq {left right : Block} (instrs : left.instrs = right.instrs)
    (targets : left.targets = right.targets) : left.Resembles right := by
  refine ⟨?_, targets⟩
  rw [instrs]
  exact List.forall₂_same.mpr fun instr _ => .refl instr

private theorem Block.Resembles.refl (block : Block) : block.Resembles block :=
  Block.resembles_of_eq rfl rfl

/-- Items that contribute alike can stand for each other in a fold. -/
theorem foldl_eq_of_forall₂ {α β : Type} {related : α → α → Prop} {step : β → α → β}
    (alike : ∀ sum left right, related left right → step sum left = step sum right)
    {left right : List α} (pairs : List.Forall₂ related left right) (start : β) :
    left.foldl step start = right.foldl step start := by
  induction pairs generalizing start with
  | nil => rfl
  | cons head _ ih =>
      rw [List.foldl_cons, List.foldl_cons, alike start _ _ head]
      exact ih _

/-- Instructions that resemble each other have the same fingerprint. -/
theorem Instr.Resembles.fingerprint_eq {left right : Instr} (alike : left.Resembles right) :
    left.fingerprint = right.fingerprint := by
  unfold fingerprint
  rw [alike.code]
  apply alike.operands.foldl_eq'
  intro first _ second _ sum
  rw [UInt32.add_assoc, UInt32.add_comm first.fingerprint, ← UInt32.add_assoc]

/-- Blocks that resemble each other contribute alike, whatever comes before. -/
theorem Block.Resembles.fold_eq {left right : Block} (alike : left.Resembles right)
    (sum : UInt32) : left.fold sum = right.fold sum := by
  have mixed : left.instrs.foldl (fun sum instr => sum * 97 + instr.fingerprint) (sum * 1000001) =
      right.instrs.foldl (fun sum instr => sum * 97 + instr.fingerprint) (sum * 1000001) := by
    apply foldl_eq_of_forall₂ _ alike.instrs
    intro sum first second same
    rw [same.fingerprint_eq]
  rw [fold, fold, mixed, alike.targets]

/-- Slots that resemble each other have the same fingerprint. -/
theorem StackSlot.Resembles.fingerprint_eq {left right : StackSlot}
    (alike : left.Resembles right) : left.fingerprint = right.fingerprint := by
  unfold fingerprint isSpill
  rw [alike.kind, alike.size, alike.offset]

namespace Procedure

/-- **Fingerprints read nothing else.** Procedures that resemble each other have the same
fingerprint. -/
theorem Resembles.fingerprint_eq {left right : Procedure} (alike : left.Resembles right) :
    left.fingerprint = right.fingerprint := by
  have blocks : left.blocks.foldl Block.fold 0 = right.blocks.foldl Block.fold 0 :=
    foldl_eq_of_forall₂ (fun sum _ _ same => same.fold_eq sum) alike.blocks 0
  unfold fingerprint
  rw [blocks]
  apply foldl_eq_of_forall₂ _ alike.slots
  intro sum first second same
  rw [same.fingerprint_eq]

/-! ### Edits out of sight -/

/-- Procedures with the same slots resemble each other if their blocks do, one by one. -/
theorem resembles_of_blocks {procedure after : Procedure}
    (blocks : List.Forall₂ Block.Resembles procedure.blocks after.blocks)
    (slots : procedure.slots = after.slots) : procedure.Resembles after := by
  refine ⟨blocks, ?_⟩
  rw [slots]
  exact List.forall₂_same.mpr fun slot _ => ⟨rfl, rfl, rfl⟩

/-- Counters, the frame and pinned registers are out of sight. -/
theorem resembles_of_eq {procedure after : Procedure} (blocks : procedure.blocks = after.blocks)
    (slots : procedure.slots = after.slots) : procedure.Resembles after := by
  refine resembles_of_blocks ?_ slots
  rw [blocks]
  exact List.forall₂_same.mpr fun block _ => .refl block

private theorem Resembles.refl (procedure : Procedure) : procedure.Resembles procedure :=
  resembles_of_eq rfl rfl

/-- Replacing a block by one that resembles it is out of sight. -/
theorem resembles_setBlock {procedure : Procedure} {id : BlockId} {old new : Block}
    (found : procedure.block? id = some old) (alike : old.Resembles new) :
    procedure.Resembles (procedure.setBlock id new) := by
  refine resembles_of_blocks ?_ rfl
  rw [List.forall₂_iff_get]
  refine ⟨List.length_set.symm, fun position inside _ => ?_⟩
  by_cases here : id.index.toNat = position
  · subst here
    have held : procedure.blocks[id.index.toNat] = old := (List.getElem_eq_iff inside).mpr found
    simpa [setBlock, held] using alike
  · have kept : (procedure.setBlock id new).blocks.get ⟨position, by assumption⟩ =
        procedure.blocks.get ⟨position, inside⟩ := List.getElem_set_ne here _
    rw [kept]
    exact .refl _

/-- Recorded predecessors are out of sight. -/
theorem resembles_withSources (procedure : Procedure) (sources : Nat → List BlockId) :
    procedure.Resembles
      { procedure with blocks := withSources procedure.blocks sources } := by
  refine resembles_of_blocks ?_ rfl
  rw [List.forall₂_iff_get]
  refine ⟨(length_withSources _ _).symm, fun position inside _ => ?_⟩
  simp only [withSources, List.get_eq_getElem, List.getElem_mapIdx]
  exact Block.resembles_of_eq rfl rfl

/-- Recording edges changes predecessors only, however many blocks there are. -/
theorem exists_recordEdges_eq_withSources (blocks : List Block) (edges : List (Block × Nat))
    (sources : Nat → List BlockId) :
    ∃ later, recordEdges (withSources blocks sources) edges = withSources blocks later := by
  induction edges generalizing sources with
  | nil => exact ⟨sources, rfl⟩
  | cons edge rest ih =>
      obtain ⟨later, recorded⟩ := ih _
      refine ⟨later, ?_⟩
      rw [← recorded, ← recordTargets_withSources]
      rfl

/-- Deriving the predecessors anew is out of sight. -/
theorem resembles_rebuildPredecessors {procedure rebuilt : Procedure}
    (succeeded : procedure.rebuildPredecessors = .ok rebuilt) : procedure.Resembles rebuilt := by
  unfold rebuildPredecessors at succeeded
  split at succeeded
  · cases succeeded
  · cases succeeded
    obtain ⟨sources, recorded⟩ :=
      exists_recordEdges_eq_withSources procedure.blocks procedure.blocks.zipIdx fun _ => []
    simp only [map_clear, recorded]
    exact procedure.resembles_withSources sources

/-- The size of the call area is out of sight. -/
theorem resembles_growCallArea {procedure grown : Procedure} {size : UInt32}
    (succeeded : procedure.growCallArea size = .ok grown) : procedure.Resembles grown := by
  unfold growCallArea at succeeded
  split at succeeded
  · cases succeeded
    exact resembles_of_eq rfl rfl
  · cases succeeded

/-- The counts of virtual values are out of sight. -/
theorem resembles_addTemp (procedure : Procedure) (bank : Bank) :
    procedure.Resembles (procedure.addTemp bank) := by
  cases bank <;> exact resembles_of_eq rfl rfl

end Procedure

/-! ### Runs -/

namespace Edit

variable {α β : Type} {session : Session}

/-- The edit, answered or refused, leads to a procedure that resembles the one before. -/
def Retouches (session : Session) (edit : Edit α) : Prop :=
  session.procedure.Resembles (edit.run.run session).2.procedure

namespace Retouches

private theorem answer (value : α) : Retouches session (pure value) := .refl _

private theorem procedure_bind {next : Procedure → Edit β}
    (later : Retouches session (next session.procedure)) :
    Retouches session (Edit.procedure >>= next) := later

/-- An edit of something that may be missing has to retouch only where it is there. -/
theorem existing_bind {found? : Option α} {next : α → Edit β}
    (later : ∀ found, found? = some found → Retouches session (next found)) :
    Retouches session (existing found? >>= next) := by
  cases found? with
  | none => exact .refl _
  | some found => exact later found rfl

private theorem block_bind {id : BlockId} {next : Block → Edit β}
    (later : ∀ block, session.procedure.block? id = some block → Retouches session (next block)) :
    Retouches session (Edit.block id >>= next) :=
  existing_bind later

/-- An edit that goes on from a result has to retouch only where the result is one. -/
theorem succeed_bind {result : Except Fault α} {next : α → Edit β}
    (later : ∀ value, result = .ok value → Retouches session (next value)) :
    Retouches session (succeed result >>= next) := by
  cases result with
  | error fault => exact .refl _
  | ok value => exact later value rfl

/-- A change to a procedure that resembles the old one retouches. -/
theorem modifyProcedure {change : Procedure → Procedure}
    (alike : session.procedure.Resembles (change session.procedure)) (value : α) :
    Retouches session (Edit.modifyProcedure change >>= fun _ => pure value) := alike

end Retouches

end Edit

/-- An edge that is put back with another weight keeps the targets. -/
theorem Block.targets_reweigh {block : Block} {position : Nat} {edge : Edge}
    (held : block.successors[position]? = some edge) (frequency : Frequency) :
    { block with
      successors := block.successors.set position ⟨edge.target, frequency⟩ }.targets =
      block.targets := by
  apply List.ext_getElem?
  intro other
  by_cases here : position = other
  · subst here
    obtain ⟨inside, rfl⟩ := List.getElem?_eq_some_iff.mp held
    simp [targets, inside]
  · simp [targets, here]

namespace Command

/-- The command edits a weight, rebuilds predecessors, counts a value, sets up the frame,
pins or unpins registers, or checks references. -/
def Cosmetic : Command → Prop
  | .setFrequency _ _ | .setSuccessor _ _ none _ | .rebuildPredecessors | .newTemp _
  | .growCallArea _ | .setFrameSize _ | .pin _ | .unpin _ | .pinAll _ | .check => True
  | _ => False

open Edit

/-- **One cosmetic command**, answered or refused. -/
theorem Cosmetic.retouches {command : Command} (cosmetic : command.Cosmetic)
    (session : Session) : Retouches session command.run := by
  cases command with
  | setFrequency id frequency =>
      refine .block_bind fun block found => .modifyProcedure ?_ _
      exact Procedure.resembles_setBlock found (Block.resembles_of_eq rfl rfl)
  | setSuccessor id position target? frequency? =>
      cases target? with
      | some target => exact cosmetic.elim
      | none =>
          refine .block_bind fun block found => .existing_bind fun edge held => ?_
          refine .modifyProcedure (Procedure.resembles_setBlock found ?_) _
          exact Block.resembles_of_eq rfl (Block.targets_reweigh held _).symm
  | rebuildPredecessors =>
      refine .procedure_bind (.succeed_bind fun rebuilt built => .modifyProcedure ?_ _)
      exact Procedure.resembles_rebuildPredecessors built
  | newTemp bank =>
      exact .procedure_bind (.modifyProcedure (session.procedure.resembles_addTemp bank) _)
  | growCallArea size =>
      refine .procedure_bind (.succeed_bind fun grown succeeded => .modifyProcedure ?_ _)
      exact Procedure.resembles_growCallArea succeeded
  | setFrameSize size => exact .modifyProcedure (Procedure.resembles_of_eq rfl rfl) _
  | pin register => exact .modifyProcedure (Procedure.resembles_of_eq rfl rfl) _
  | unpin register => exact .modifyProcedure (Procedure.resembles_of_eq rfl rfl) _
  | pinAll registers => exact .modifyProcedure (Procedure.resembles_of_eq rfl rfl) _
  | check => exact .procedure_bind (.succeed_bind fun _ _ => .answer _)
  | _ => exact cosmetic.elim

end Command

/-- **Runs of cosmetic commands.** While only cosmetic commands run, every record and the
procedure at the end have the fingerprint of the start. -/
theorem Session.fingerprint_play {commands : List Command}
    (cosmetic : ∀ command ∈ commands, command.Cosmetic) (session : Session) :
    (∀ record ∈ (session.play (commands.map .perform)).1,
        record.fingerprint = session.procedure.fingerprint) ∧
      (session.play (commands.map .perform)).2.procedure.fingerprint =
        session.procedure.fingerprint := by
  induction commands generalizing session with
  | nil => exact ⟨fun _ member => (nomatch member), rfl⟩
  | cons command rest ih =>
      have here := ((cosmetic command (.head _)).retouches session).fingerprint_eq
      obtain ⟨records, final⟩ :=
        ih (fun other member => cosmetic other (.tail _ member)) (command.run.run.run session).2
      rw [← here] at records final
      refine ⟨fun record member => ?_, final⟩
      rcases List.mem_cons.mp member with rfl | later
      · exact here.symm
      · exact records record later

/-- **Fingerprints ignore the rest.** Procedures that resemble each other have one
fingerprint; and no run of commands that edit weights, rebuild predecessors, count values,
set up the frame, pin registers or check references changes it at any step. -/
theorem Procedure.fingerprint_ignores_the_rest :
    (∀ left right : Procedure, left.Resembles right → left.fingerprint = right.fingerprint) ∧
      ∀ (session : Session) (commands : List Command),
        (∀ command ∈ commands, command.Cosmetic) →
        (∀ record ∈ (session.play (commands.map .perform)).1,
            record.fingerprint = session.procedure.fingerprint) ∧
          (session.play (commands.map .perform)).2.procedure.fingerprint =
            session.procedure.fingerprint :=
  ⟨fun _ _ alike => alike.fingerprint_eq,
    fun session _ cosmetic => session.fingerprint_play cosmetic⟩

/-- Two procedures that differ wherever they may, and a run in which predecessors cannot be
rebuilt and the area is too large. -/
theorem Procedure.fingerprint_ignores_the_rest_dangling :
    let left : Procedure := { Procedure.empty with
      blocks := [⟨⟨0⟩, .one, [⟨⟨1, "Move"⟩, [.number 5, .special], .none⟩], [⟨⟨9⟩, .one⟩], []⟩]
      slots := [.fresh ⟨0⟩ 8 .spill] }
    let right : Procedure :=
      { blocks := [⟨⟨7⟩, ⟨0⟩, [⟨⟨1, "Shift"⟩, [.special, .number 5], .patch [] true⟩],
          [⟨⟨9⟩, ⟨0⟩⟩], [⟨3⟩]⟩]
        slots := [⟨⟨4⟩, 8, .spill, some 0⟩]
        gpTemps := 1, fpTemps := 2, callArea := 16, frameSize := 32
        pinned := RegisterSet.calleeSaves }
    let session : Session := { Session.start ConventionTable.empty with procedure := left }
    let commands : List Command := [.rebuildPredecessors, .newTemp .fp, .growCallArea 4294967295,
      .setSuccessor ⟨0⟩ 0 none (some ⟨0⟩), .pin Register.framePointer, .check]
    left ≠ right ∧ left.Resembles right ∧ left.fingerprint = right.fingerprint ∧
      (∃ fault, left.rebuildPredecessors = .error fault) ∧
      (∀ command ∈ commands, command.Cosmetic) ∧
      ∀ record ∈ (session.play (commands.map .perform)).1,
        record.fingerprint = left.fingerprint := by
  intro left right session commands
  have alike : left.Resembles right := by
    have instrs : Instr.Resembles ⟨⟨1, "Move"⟩, [.number 5, .special], .none⟩
        ⟨⟨1, "Shift"⟩, [.special, .number 5], .patch [] true⟩ := ⟨rfl, .swap _ _ _⟩
    exact ⟨.cons ⟨.cons instrs .nil, rfl⟩ .nil, .cons ⟨rfl, rfl, rfl⟩ .nil⟩
  have cosmetic : ∀ command ∈ commands, command.Cosmetic := by
    simp [commands, Command.Cosmetic]
  obtain ⟨same, runs⟩ := fingerprint_ignores_the_rest
  exact ⟨by decide, alike, same left right alike, ⟨_, rfl⟩, cosmetic,
    (runs session commands cosmetic).1⟩

end BackendIR
