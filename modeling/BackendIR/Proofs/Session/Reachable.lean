import BackendIR.Proofs.Procedure.Predecessors
import BackendIR.Proofs.Session.Steady

/-!
# Runs that use only what was returned

Blocks, slots and virtual values are known by what the commands that add them have
returned. Start from nothing, and let every reference that is ever supplied be one
of these (`BackendIR.Reachable`). Then the procedure passes its check all along, its
predecessors can be rebuilt, and everything returned can still be looked up
(`BackendIR.Reachable.check_and_index_succeed`). Only virtual values have to stay few
enough for their count; a number of a block or slot that wraps names an earlier one.
-/

namespace BackendIR

/-- A scope below one that is below a third is below the third. -/
theorem Scope.Below.trans {small middle large : Scope} (first : small.Below middle)
    (second : middle.Below large) : small.Below large where
  blocks := fun id inside => second.blocks id (first.blocks id inside)
  slots := fun id inside => second.slots id (first.slots id inside)
  temps := fun bank index inside => second.temps bank index (first.temps bank index inside)

/-! ### Growing scopes -/

namespace Procedure

variable {procedure : Procedure}

private theorem scope_addBlock {frequency : Frequency} {id : BlockId} :
    (procedure.addBlock frequency).scope.blocks id ↔
      id.index.toNat ≤ procedure.blocks.length := by
  change _ < (_ ++ [_]).length ↔ _
  rw [List.length_append]
  exact Nat.lt_succ_iff

/-- A new block takes nothing from the scope. -/
theorem scope_below_addBlock (procedure : Procedure) (frequency : Frequency) :
    procedure.scope.Below (procedure.addBlock frequency).scope where
  blocks := fun _ inside => scope_addBlock.mpr (Nat.le_of_lt inside)
  slots := fun _ => id
  temps := fun _ _ => id

private theorem scope_addSlot {size : UInt32} {kind : StackSlot.Kind} {id : SlotId} :
    (procedure.addSlot size kind).scope.slots id ↔ id.index.toNat ≤ procedure.slots.length := by
  change _ < (_ ++ [_]).length ↔ _
  rw [List.length_append]
  exact Nat.lt_succ_iff

/-- A new slot takes nothing from the scope. -/
theorem scope_below_addSlot (procedure : Procedure) (size : UInt32) (kind : StackSlot.Kind) :
    procedure.scope.Below (procedure.addSlot size kind).scope where
  blocks := fun _ => id
  slots := fun _ inside => scope_addSlot.mpr (Nat.le_of_lt inside)
  temps := fun _ _ => id

private theorem blocks_addTemp (bank : Bank) :
    (procedure.addTemp bank).blocks = procedure.blocks := by
  cases bank <;> rfl

private theorem slots_addTemp (bank : Bank) : (procedure.addTemp bank).slots = procedure.slots := by
  cases bank <;> rfl

/-- Values are counted as long as their count fits. -/
theorem toNat_tempCount_addTemp {bank : Bank}
    (fits : (procedure.tempCount bank).toNat + 1 < UInt32.size) (other : Bank) :
    ((procedure.addTemp bank).tempCount other).toNat =
      (procedure.tempCount other).toNat + if bank = other then 1 else 0 := by
  have counted : (procedure.tempCount bank + 1).toNat = (procedure.tempCount bank).toNat + 1 := by
    rw [UInt32.toNat_add]
    exact Nat.mod_eq_of_lt fits
  cases bank <;> cases other <;> first | exact counted | rfl

/-- A new value takes nothing from the scope, as long as the count does not wrap. -/
theorem scope_below_addTemp (procedure : Procedure) {bank : Bank}
    (fits : (procedure.tempCount bank).toNat + 1 < UInt32.size) :
    procedure.scope.Below (procedure.addTemp bank).scope where
  blocks := fun id inside => by
    change _ < (procedure.addTemp bank).blocks.length
    rwa [blocks_addTemp]
  slots := fun id inside => by
    change _ < (procedure.addTemp bank).slots.length
    rwa [slots_addTemp]
  temps := fun other index inside => by
    refine UInt32.lt_iff_toNat_lt.mpr (Nat.lt_of_lt_of_le (UInt32.lt_iff_toNat_lt.mp inside) ?_)
    rw [toNat_tempCount_addTemp fits]
    exact Nat.le_add_right _ _

end Procedure

/-! ### Runs -/

/-- What the commands of a run have returned: numbers of blocks, numbers of slots, and
virtual values. -/
structure Returned where
  blocks : List BlockId
  slots : List SlotId
  temps : List Temp

namespace Returned

/-- Nothing was returned yet. -/
def nothing : Returned := ⟨[], [], []⟩

/-- References to what was returned. -/
def scope (returned : Returned) : Scope where
  blocks := fun id => id ∈ returned.blocks
  slots := fun id => id ∈ returned.slots
  temps := fun bank index => .virtual bank index ∈ returned.temps

/-- How many values of a bank were returned. -/
def count (returned : Returned) (bank : Bank) : Nat :=
  returned.temps.countP fun value => value.bank = bank

private theorem count_concat (returned : Returned) (value : Temp) (bank : Bank) :
    { returned with temps := returned.temps ++ [value] }.count bank =
      returned.count bank + if value.bank = bank then 1 else 0 := by
  simp [count, List.countP_append, List.countP_singleton]

/-- What was returned once a command has had its outcome. -/
def after (returned : Returned) : Command → Except Refusal Reply → Returned
  | .addBlock _, .ok (.number value) =>
      { returned with blocks := returned.blocks ++ [⟨UInt32.ofNat value⟩] }
  | .addSlot _ _, .ok (.number value) =>
      { returned with slots := returned.slots ++ [⟨UInt32.ofNat value⟩] }
  | .newTemp _, .ok (.temp value) => { returned with temps := returned.temps ++ [value] }
  | _, _ => returned

/-- The command for a new block returns the number of that block. -/
theorem after_addBlock (returned : Returned) (frequency? : Option Frequency)
    (session : Session) :
    returned.after (.addBlock frequency?)
        ((Command.addBlock frequency?).run.run.run session).1 =
      { returned with blocks := returned.blocks ++ [session.procedure.nextBlock] } := by
  change { returned with blocks := _ ++ [(⟨UInt32.ofNat (UInt32.toNat _)⟩ : BlockId)] } = _
  rw [UInt32.ofNat_toNat]

/-- The command for a new slot returns the number of that slot. -/
theorem after_addSlot (returned : Returned) (size : UInt32) (kind : StackSlot.Kind)
    (session : Session) :
    returned.after (.addSlot size kind) ((Command.addSlot size kind).run.run.run session).1 =
      { returned with slots := returned.slots ++ [session.procedure.nextSlot] } := by
  change { returned with slots := _ ++ [(⟨UInt32.ofNat (UInt32.toNat _)⟩ : SlotId)] } = _
  rw [UInt32.ofNat_toNat]

/-- The command for a new value returns that value. -/
theorem after_newTemp (returned : Returned) (bank : Bank) (session : Session) :
    returned.after (.newTemp bank) ((Command.newTemp bank).run.run.run session).1 =
      { returned with temps := returned.temps ++ [session.procedure.nextTemp bank] } := rfl

/-- Other commands return nothing to refer to, whatever their outcome. -/
theorem after_of_not_adds (returned : Returned) {command : Command} (adds : ¬ command.Adds)
    (outcome : Except Refusal Reply) : returned.after command outcome = returned := by
  unfold after
  split
  · exact absurd trivial adds
  · exact absurd trivial adds
  · exact absurd trivial adds
  · rfl

end Returned

/-- The sessions that are reached, each with what was returned on the way, if every
reference supplied is to something returned before. -/
inductive Reachable : Session → Returned → Prop where
  | start (table : ConventionTable) : Reachable (Session.start table) Returned.nothing
  /-- A command, answered or refused. -/
  | perform {session : Session} {returned : Returned} (reached : Reachable session returned)
      (command : Command) (supplied : command.Within returned.scope) :
      Reachable (command.run.run.run session).2
        (returned.after command (command.run.run.run session).1)
  /-- A commit of any batch, accepted or refused. -/
  | commit {session : Session} {returned : Returned} (reached : Reachable session returned)
      {id : BlockId} {block : Block} (found : session.procedure.block? id = some block)
      (batch : Batch Instr)
      (supplied : ∀ insertion ∈ batch.pending, insertion.element.Within returned.scope) :
      Reachable
        { session with
          procedure := session.procedure.setBlock id
            { block with instrs := (batch.commit block.instrs).target } }
        returned
  /-- A walk with any visitor over one instruction, under any conventions. -/
  | rewrite {session : Session} {returned : Returned} (reached : Reachable session returned)
      {id : BlockId} {block : Block} (found : session.procedure.block? id = some block)
      {position : Nat} {instr updated : Instr} (placed : block.instrs[position]? = some instr)
      (rewriting : Rewriting) (table : ConventionTable)
      (supplied : rewriting.Supplies returned.scope instr table)
      (succeeded : rewriting.run instr table = .ok updated) :
      Reachable
        { session with
          procedure := session.procedure.setBlock id
            { block with instrs := block.instrs.set position updated } }
        returned

/-! ### The invariant -/

/-- Everything in the session refers to parts of its procedure, everything returned is
one, and the returned values are those counted. -/
structure Grounded (session : Session) (returned : Returned) : Prop where
  steady : session.Steady session.procedure
  below : returned.scope.Below session.procedure.scope
  counted : ∀ bank, (session.procedure.tempCount bank).toNat = returned.count bank

namespace Grounded

variable {session : Session} {returned : Returned}

/-- The procedure of a grounded session is well formed. -/
theorem wellFormed (grounded : Grounded session returned) : session.procedure.WellFormed :=
  grounded.steady.procedure.within

/-- A session is grounded when it starts. -/
theorem start (table : ConventionTable) : Grounded (Session.start table) Returned.nothing where
  steady.procedure := ⟨rfl, rfl, rfl, fun _ member => nomatch member⟩
  steady.staged := fun _ member => nomatch member
  below.blocks := fun _ member => nomatch member
  below.slots := fun _ member => nomatch member
  below.temps := fun _ _ member => nomatch member
  counted := fun bank => by cases bank <;> rfl

/-- A steady session refers to parts of its own procedure. -/
theorem of_steady (grounded : Grounded session returned) {after : Session}
    (steady : after.Steady session.procedure) : Grounded after returned := by
  have same := steady.procedure.scope_eq
  refine ⟨⟨⟨rfl, rfl, rfl, ?_⟩, ?_⟩, ?_, ?_⟩
  · rw [same]
    exact steady.procedure.within
  · rw [same]
    exact steady.staged
  · rw [same]
    exact grounded.below
  · rw [steady.procedure.temps]
    exact grounded.counted

/-- A session stays grounded if its procedure grows and new blocks refer to parts of it. -/
theorem grow (grounded : Grounded session returned) {grown : Procedure} {later : Returned}
    (below : session.procedure.scope.Below grown.scope)
    (stored : ∀ block ∈ grown.blocks,
      block ∈ session.procedure.blocks ∨ block.Within grown.scope)
    (known : later.scope.Below grown.scope)
    (counted : ∀ bank, (grown.tempCount bank).toNat = later.count bank) :
    Grounded { session with procedure := grown } later := by
  refine ⟨⟨⟨rfl, rfl, rfl, fun block member => ?_⟩, fun insertion member => ?_⟩, known, counted⟩
  · rcases stored block member with old | new
    · exact (grounded.wellFormed block old).mono below
    · exact new
  · exact (grounded.steady.staged insertion member).mono below

/-- A new block keeps a session grounded, and its number can be referred to. -/
theorem addBlock (grounded : Grounded session returned) (frequency : Frequency) :
    Grounded { session with procedure := session.procedure.addBlock frequency }
      { returned with blocks := returned.blocks ++ [session.procedure.nextBlock] } := by
  have known := grounded.below.trans (session.procedure.scope_below_addBlock frequency)
  refine grounded.grow (Procedure.scope_below_addBlock _ _) (fun block member => ?_)
    { known with blocks := ?_ } grounded.counted
  · refine (List.mem_append.mp member).imp_right fun last => ?_
    cases List.mem_singleton.mp last
    exact Block.fresh_within _ _
  · exact forall_mem_concat known.blocks (Procedure.scope_addBlock.mpr (Nat.mod_le _ _))

/-- A new slot keeps a session grounded, and its number can be referred to. -/
theorem addSlot (grounded : Grounded session returned) (size : UInt32) (kind : StackSlot.Kind) :
    Grounded { session with procedure := session.procedure.addSlot size kind }
      { returned with slots := returned.slots ++ [session.procedure.nextSlot] } := by
  have known := grounded.below.trans (session.procedure.scope_below_addSlot size kind)
  refine grounded.grow (Procedure.scope_below_addSlot _ _ _) (fun _ => .inl)
    { known with slots := ?_ } grounded.counted
  exact forall_mem_concat known.slots (Procedure.scope_addSlot.mpr (Nat.mod_le _ _))

/-- A new value keeps a session grounded and can be referred to, as long as the count does not
wrap. -/
theorem newTemp (grounded : Grounded session returned) {bank : Bank}
    (fits : returned.count bank + 1 < UInt32.size) :
    Grounded { session with procedure := session.procedure.addTemp bank }
      { returned with temps := returned.temps ++ [session.procedure.nextTemp bank] } := by
  rw [← grounded.counted bank] at fits
  have grows := session.procedure.scope_below_addTemp fits
  have known := grounded.below.trans grows
  refine grounded.grow grows (fun block member => .inl ?_) { known with temps := ?_ } ?_
  · rwa [Procedure.blocks_addTemp] at member
  · intro other index member
    rcases List.mem_append.mp member with old | last
    · exact known.temps other index old
    · cases List.mem_singleton.mp last
      refine UInt32.lt_iff_toNat_lt.mpr ?_
      rw [Procedure.toNat_tempCount_addTemp fits, if_pos rfl]
      exact Nat.lt_succ_self _
  · intro other
    rw [Procedure.toNat_tempCount_addTemp fits, Returned.count_concat, grounded.counted]
    rfl

/-- **What a command keeps.** A command that names only what was returned leaves a grounded
session, as long as the count of returned values stays in range. -/
theorem perform (grounded : Grounded session returned) {command : Command}
    (supplied : command.Within returned.scope)
    (bounded : ∀ bank,
      (returned.after command (command.run.run.run session).1).count bank < UInt32.size) :
    Grounded (command.run.run.run session).2
      (returned.after command (command.run.run.run session).1) := by
  by_cases adds : command.Adds
  · cases command with
    | addBlock frequency? =>
        rw [Returned.after_addBlock]
        exact grounded.addBlock (frequency?.getD Frequency.one)
    | addSlot size kind =>
        rw [Returned.after_addSlot]
        exact grounded.addSlot size kind
    | newTemp bank =>
        have more := bounded bank
        rw [Returned.after_newTemp, Returned.count_concat,
          if_pos (rfl : Temp.bank _ = bank)] at more
        exact grounded.newTemp more
    | _ => exact adds.elim
  · rw [Returned.after_of_not_adds returned adds]
    exact grounded.of_steady
      (Command.run_steady (supplied.mono grounded.below) adds session grounded.steady).1

end Grounded

/-! ### Whole runs -/

/-- The predecessors of a well-formed procedure can be derived anew. -/
theorem Procedure.WellFormed.exists_rebuildPredecessors {procedure : Procedure}
    (formed : procedure.WellFormed) :
    ∃ rebuilt, procedure.rebuildPredecessors = .ok rebuilt := by
  cases outcome : procedure.rebuildPredecessors with
  | ok rebuilt => exact ⟨rebuilt, rfl⟩
  | error fault =>
      have refused := procedure.check_of_checkSuccessors
        ((procedure.rebuildPredecessors_eq_error_iff fault).mp outcome)
      rw [procedure.check_eq_ok_iff.mpr formed] at refused
      cases refused

namespace Returned

/-- Nothing returned is forgotten. -/
theorem count_le_after (returned : Returned) (command : Command)
    (outcome : Except Refusal Reply) (bank : Bank) :
    returned.count bank ≤ (returned.after command outcome).count bank := by
  unfold after
  split
  · exact Nat.le_refl _
  · exact Nat.le_refl _
  · rw [count_concat]
    exact Nat.le_add_right _ _
  · exact Nat.le_refl _

end Returned

namespace Reachable

variable {session : Session} {returned : Returned}

/-- Every reachable session is grounded, as long as the counts of values do not wrap. -/
theorem grounded (reached : Reachable session returned)
    (bounded : ∀ bank, returned.count bank < UInt32.size) : Grounded session returned := by
  -- The bound is on what was returned at the end; nothing returned is forgotten, so it held before.
  induction reached with
  | start table => exact Grounded.start table
  | perform reached command supplied ih =>
      have before := ih fun bank =>
        Nat.lt_of_le_of_lt (Returned.count_le_after _ command _ bank) (bounded bank)
      exact before.perform supplied bounded
  | commit reached found batch supplied ih =>
      have before := ih bounded
      have stored := before.wellFormed _ (List.mem_of_getElem? found)
      refine before.of_steady ⟨before.steady.procedure.setBlock _ ?_, before.steady.staged⟩
      exact stored.commit fun insertion pending => (supplied insertion pending).mono before.below
  | rewrite reached found placed rewriting table supplied succeeded ih =>
      have before := ih bounded
      have stored := before.wellFormed _ (List.mem_of_getElem? found)
      have updated := Rewriting.run_within (stored.instrs _ (List.mem_of_getElem? placed))
        (supplied.mono before.below) succeeded
      refine before.of_steady ⟨before.steady.procedure.setBlock _ ?_, before.steady.staged⟩
      exact stored.withInstrs (forall_mem_set stored.instrs _ updated)

/-- **Runs that use what was returned.** In every session that such a run reaches, while the
values of a bank are fewer than a 32-bit count can tell, the check passes, predecessors
can be rebuilt, and every number returned finds a block or slot. -/
theorem check_and_index_succeed (reached : Reachable session returned)
    (bounded : ∀ bank, returned.count bank < UInt32.size) :
    session.procedure.check = .ok () ∧
      (∃ rebuilt, session.procedure.rebuildPredecessors = .ok rebuilt) ∧
      (∀ id ∈ returned.blocks, ∃ block, session.procedure.block? id = some block ∧
        (Command.getBlock id).run.run.run session = (.ok (.block block), session)) ∧
      ∀ id ∈ returned.slots, ∃ slot, session.procedure.slot? id = some slot ∧
        (Command.getSlot id).run.run.run session = (.ok (.slot slot), session) := by
  have grounded := reached.grounded bounded
  refine ⟨session.procedure.check_eq_ok_iff.mpr grounded.wellFormed,
    grounded.wellFormed.exists_rebuildPredecessors, fun id member => ?_, fun id member => ?_⟩
  · obtain ⟨block, found⟩ : ∃ block, session.procedure.block? id = some block :=
      ⟨_, List.getElem?_eq_getElem (grounded.below.blocks id member)⟩
    refine ⟨block, found, ?_⟩
    change (Edit.existing (session.procedure.block? id) >>= _ : Edit Reply).run.run session = _
    rw [found]
    rfl
  · obtain ⟨slot, found⟩ : ∃ slot, session.procedure.slot? id = some slot :=
      ⟨_, List.getElem?_eq_getElem (grounded.below.slots id member)⟩
    refine ⟨slot, found, ?_⟩
    change (Edit.existing (session.procedure.slot? id) >>= _ : Edit Reply).run.run session = _
    rw [found]
    rfl

/-- A run that spills a value into a slot by a walk, rebuilds predecessors and exchanges the
blocks. -/
theorem check_and_index_succeed_spill :
    let opcode : Opcode := ⟨9, "Shuffle"⟩
    let value : Temp := .virtual .gp 0
    let kept : Temp := .spilled ⟨0⟩ .gp
    let move (place : Temp) : Instr := ⟨opcode, [.temp place, .temp place, .width .w32], .none⟩
    ∃ session returned, Reachable session returned ∧
      (∀ bank, returned.count bank < UInt32.size) ∧
      returned = ⟨[⟨0⟩, ⟨1⟩], [⟨0⟩], [value]⟩ ∧
      session.procedure.blocks.map Block.instrs = [[], [move kept]] ∧
      session.procedure.check = .ok () ∧
      (∃ rebuilt, session.procedure.rebuildPredecessors = .ok rebuilt) ∧
      ∃ slot, session.procedure.slot? ⟨0⟩ = some slot := by
  intro opcode value kept move
  let table := ConventionTable.empty.bind opcode (.derived .shuffle)
  let blocks (instrs : List Instr) : List Block :=
    [{ Block.fresh ⟨0⟩ .one with instrs, successors := [⟨⟨1⟩, .one⟩] }, Block.fresh ⟨1⟩ .one]
  let session (instrs : List Instr) : Session :=
    { Session.start table with
      procedure := { Procedure.empty with
        blocks := blocks instrs, slots := [.fresh ⟨0⟩ 8 .spill], gpTemps := 1 } }
  let returned : Returned := ⟨[⟨0⟩, ⟨1⟩], [⟨0⟩], [value]⟩
  let spill : Visitor Unit Temp := fun _ _ => pure (some kept)
  have opened := ((Reachable.start table).perform (.addBlock none) trivial).perform
    (.addBlock none) trivial
  have stocked := (opened.perform (.addSlot 8 .spill) trivial).perform (.newTemp .gp) trivial
  have linked : Reachable (session []) returned :=
    stocked.perform (.addSuccessor ⟨0⟩ ⟨1⟩ .one) (.tail _ (.head _))
  have filled : Reachable (session [move value]) returned := by
    refine linked.perform (.append ⟨0⟩ (move value)) ?_
    simp [Command.Within, Instr.Within, Operand.within_iff, Operand.slot?, Operand.temps,
      Temp.Within, Returned.scope, move, value, returned]
  have spilled : Reachable (session [move kept]) returned := by
    have found : (session [move value]).procedure.block? ⟨0⟩ = (blocks [move value])[0]? := rfl
    refine filled.rewrite found (rfl : [move value][0]? = _) (.temps spill ()) table ?_ rfl
    have calls : (((move value).updateParts table (recording spill)).run ([], ())).2.1 =
        [⟨value, ⟨.use, .gp, .w32⟩, some kept⟩, ⟨value, ⟨.define, .gp, .w32⟩, some kept⟩] := rfl
    simp [Rewriting.Supplies, calls, Temp.Within, Returned.scope, kept, returned]
  have rebuilt := spilled.perform .rebuildPredecessors trivial
  have exchanged := rebuilt.perform (.swapBlocks 0 1) trivial
  have bounded : ∀ bank, returned.count bank < UInt32.size := by
    intro bank
    cases bank <;> decide
  obtain ⟨checked, again, -, slots⟩ := exchanged.check_and_index_succeed bounded
  obtain ⟨slot, found, -⟩ := slots ⟨0⟩ (.head _)
  exact ⟨_, _, exchanged, bounded, rfl, rfl, checked, again, slot, found⟩

end Reachable

end BackendIR
