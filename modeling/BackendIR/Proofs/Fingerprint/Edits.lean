import Mathlib.Logic.Function.Basic
import BackendIR.Procedure.Basic

/-!
# Fingerprints tell edits

A fingerprint is a fold: each item of a procedure is mixed into the sum of all items
before it. Every multiplier in use has an inverse in wrapping arithmetic, so each step
can be undone, and with it everything that follows an item
(`BackendIR.foldl_injective`). Hence a single item can be exchanged without notice only
for one with the same fingerprint, whatever stands before and behind it
(`BackendIR.Procedure.fingerprint_tells_edits`).
-/

namespace BackendIR

/-! ### Folds that can be undone -/

section Folds

variable {α β : Type} {step : β → α → β}

/-- If every step of a fold can be undone, so can the fold. -/
theorem foldl_injective (steps : ∀ item, Function.Injective (step · item)) (items : List α) :
    Function.Injective fun start => items.foldl step start := by
  induction items with
  | nil => exact Function.injective_id
  | cons item rest ih => exact ih.comp (steps item)

/-- Whether an exchange of one item shows is decided where the item is mixed in. -/
theorem foldl_set_eq_iff (steps : ∀ item, Function.Injective (step · item)) {items : List α}
    {position : Nat} {old : α} (found : items[position]? = some old) (new : α) (start : β) :
    (items.set position new).foldl step start = items.foldl step start ↔
      step ((items.take position).foldl step start) new =
        step ((items.take position).foldl step start) old := by
  induction items generalizing position start with
  | nil => cases found
  | cons item rest ih =>
      cases position with
      | zero =>
          cases found
          exact (foldl_injective steps rest).eq_iff
      | succ position => exact ih found (step start item)

end Folds

/-- The multiplier has an inverse in wrapping arithmetic. -/
def Reversible (multiplier : UInt32) : Prop :=
  ∃ inverse, multiplier * inverse = 1

private theorem reversible_block : Reversible 1000001 := ⟨2385628609, rfl⟩

theorem reversible_instr : Reversible 97 := ⟨1594008481, rfl⟩

theorem reversible_target : Reversible 7 := ⟨3067833783, rfl⟩

theorem reversible_slot : Reversible 101 := ⟨2083697005, rfl⟩

namespace Reversible

variable {α : Type} {multiplier : UInt32}

/-- Multiplication by a reversible number can be undone. -/
theorem mul_injective (reversible : Reversible multiplier) :
    Function.Injective (· * multiplier) := by
  obtain ⟨inverse, inverts⟩ := reversible
  intro left right same
  calc left = left * multiplier * inverse := by rw [UInt32.mul_assoc, inverts, UInt32.mul_one]
    _ = right * multiplier * inverse := congrArg (· * inverse) same
    _ = right := by rw [UInt32.mul_assoc, inverts, UInt32.mul_one]

/-- Mixing in a contribution can be undone. -/
theorem mix_injective (reversible : Reversible multiplier) (contribution : UInt32) :
    Function.Injective (· * multiplier + contribution) := by
  intro left right same
  apply reversible.mul_injective
  exact (UInt32.add_left_inj contribution).mp same

/-- Mixing in a list of contributions can be undone. -/
theorem foldl_mix_injective (reversible : Reversible multiplier) (code : α → UInt32)
    (items : List α) :
    Function.Injective fun start =>
      items.foldl (fun sum item => sum * multiplier + code item) start :=
  foldl_injective (fun item => reversible.mix_injective (code item)) items

/-- Replacing one item leaves a mixed sum as it was exactly if its contribution stays. -/
theorem foldl_mix_set_iff (reversible : Reversible multiplier) (code : α → UInt32)
    {items : List α} {position : Nat} {old : α} (found : items[position]? = some old) (new : α)
    (start : UInt32) :
    (items.set position new).foldl (fun sum item => sum * multiplier + code item) start =
        items.foldl (fun sum item => sum * multiplier + code item) start ↔
      code new = code old := by
  rw [foldl_set_eq_iff (fun item => reversible.mix_injective (code item)) found]
  exact UInt32.add_right_inj _

end Reversible

/-! ### Instructions and blocks -/

/-- Replacing an operand keeps the fingerprint of an instruction exactly if the operand's
stays. -/
theorem Instr.fingerprint_set_operand {instr : Instr} {position : Nat} {old : Operand}
    (found : instr.operands[position]? = some old) (new : Operand) :
    { instr with operands := instr.operands.set position new }.fingerprint = instr.fingerprint ↔
      new.fingerprint = old.fingerprint := by
  have steps (operand : Operand) : Function.Injective (· + operand.fingerprint) :=
    fun _ _ same => (UInt32.add_left_inj _).mp same
  exact (foldl_set_eq_iff steps found new _).trans (UInt32.add_right_inj _)

namespace Block

/-- What a block adds loses nothing of the sum before it. -/
theorem fold_injective (block : Block) : Function.Injective (fold · block) :=
  (reversible_target.foldl_mix_injective BlockId.index block.targets).comp
    ((reversible_instr.foldl_mix_injective Instr.fingerprint block.instrs).comp
      reversible_block.mul_injective)

/-- Replacing an instruction keeps a block's contribution exactly if its fingerprint stays. -/
theorem fold_set_instr {block : Block} {position : Nat} {old : Instr}
    (found : block.instrs[position]? = some old) (new : Instr) (sum : UInt32) :
    fold sum { block with instrs := block.instrs.set position new } = fold sum block ↔
      new.fingerprint = old.fingerprint := by
  -- The edges come after the instructions; what they add can be undone.
  have behind := reversible_target.foldl_mix_injective BlockId.index block.targets
  exact behind.eq_iff.trans (reversible_instr.foldl_mix_set_iff Instr.fingerprint found new _)

/-- Redirecting an edge keeps a block's contribution exactly if its target stays. -/
theorem fold_set_successor {block : Block} {position : Nat} {old : Edge}
    (found : block.successors[position]? = some old) (new : Edge) (sum : UInt32) :
    fold sum { block with successors := block.successors.set position new } = fold sum block ↔
      new.target = old.target := by
  have targeted : block.targets[position]? = some old.target := by
    rw [targets, List.getElem?_map, found]
    rfl
  have exchanged : { block with successors := block.successors.set position new }.targets =
      block.targets.set position new.target := List.map_set
  have numbers : new.target.index = old.target.index ↔ new.target = old.target :=
    ⟨congrArg BlockId.mk, congrArg BlockId.index⟩
  rw [← numbers, fold, exchanged]
  exact reversible_target.foldl_mix_set_iff BlockId.index targeted new.target _

end Block

/-! ### Procedures -/

namespace Procedure

variable {procedure : Procedure} {position : Nat}

/-- The procedure with another block at a position. -/
def withBlock (procedure : Procedure) (position : Nat) (block : Block) : Procedure :=
  { procedure with blocks := procedure.blocks.set position block }

/-- Replacing a block keeps the fingerprint of a procedure exactly if it adds the same to the
blocks before it. -/
theorem fingerprint_withBlock {old : Block} (found : procedure.blocks[position]? = some old)
    (new : Block) :
    (procedure.withBlock position new).fingerprint = procedure.fingerprint ↔
      Block.fold ((procedure.blocks.take position).foldl Block.fold 0) new =
        Block.fold ((procedure.blocks.take position).foldl Block.fold 0) old := by
  have behind := reversible_slot.foldl_mix_injective StackSlot.fingerprint procedure.slots
  exact behind.eq_iff.trans (foldl_set_eq_iff Block.fold_injective found new 0)

/-- Replacing a slot keeps the fingerprint of a procedure exactly if the slot's stays. -/
theorem fingerprint_set_slot {old : StackSlot} (found : procedure.slots[position]? = some old)
    (new : StackSlot) :
    { procedure with slots := procedure.slots.set position new }.fingerprint =
        procedure.fingerprint ↔
      new.fingerprint = old.fingerprint :=
  reversible_slot.foldl_mix_set_iff StackSlot.fingerprint found new _

/-- **Fingerprints tell edits.** An instruction, an operand, an edge or a slot at any
position can be replaced without a change of the fingerprint exactly by one that has the
same fingerprint, an edge by one with the same target. -/
theorem fingerprint_tells_edits (procedure : Procedure) :
    (∀ (position : Nat) (block : Block), procedure.blocks[position]? = some block →
      (∀ (index : Nat) (old new : Instr), block.instrs[index]? = some old →
        ((procedure.withBlock position
            { block with instrs := block.instrs.set index new }).fingerprint =
              procedure.fingerprint ↔
          new.fingerprint = old.fingerprint)) ∧
      (∀ (index : Nat) (instr : Instr) (place : Nat) (old new : Operand),
        block.instrs[index]? = some instr → instr.operands[place]? = some old →
        let edited : Instr := { instr with operands := instr.operands.set place new }
        ((procedure.withBlock position
            { block with instrs := block.instrs.set index edited }).fingerprint =
              procedure.fingerprint ↔
          new.fingerprint = old.fingerprint)) ∧
      ∀ (index : Nat) (old new : Edge), block.successors[index]? = some old →
        ((procedure.withBlock position
            { block with successors := block.successors.set index new }).fingerprint =
              procedure.fingerprint ↔
          new.target = old.target)) ∧
      ∀ (position : Nat) (old new : StackSlot), procedure.slots[position]? = some old →
        ({ procedure with slots := procedure.slots.set position new }.fingerprint =
            procedure.fingerprint ↔
          new.fingerprint = old.fingerprint) := by
  refine ⟨fun position block placed => ⟨?_, ?_, ?_⟩, ?_⟩
  · intro index old new found
    rw [fingerprint_withBlock placed, Block.fold_set_instr found]
  · intro index instr place old new found held edited
    rw [fingerprint_withBlock placed, Block.fold_set_instr found]
    exact Instr.fingerprint_set_operand held new
  · intro index old new found
    rw [fingerprint_withBlock placed, Block.fold_set_successor found]
  · intro position old new found
    exact fingerprint_set_slot found new

/-- In the first of two blocks, in front of an edge, a block and a slot, an immediate is
replaced by one with another fingerprint, and by a bit pattern with the same. -/
theorem fingerprint_tells_edits_immediate :
    let instr (operand : Operand) : Instr := ⟨⟨1, "Move"⟩, [operand, .special], .none⟩
    let block (operand : Operand) : Block :=
      { Block.fresh ⟨0⟩ .one with instrs := [instr operand], successors := [⟨⟨1⟩, .one⟩] }
    let procedure (operand : Operand) : Procedure :=
      { Procedure.empty with
        blocks := [block operand, Block.fresh ⟨1⟩ .one], slots := [.fresh ⟨0⟩ 8 .spill] }
    (procedure (.number 5)).blocks[0]? = some (block (.number 5)) ∧
      (block (.number 5)).instrs[0]? = some (instr (.number 5)) ∧
      (instr (.number 5)).operands[0]? = some (.number 5) ∧
      (procedure (.number 6)).fingerprint ≠ (procedure (.number 5)).fingerprint ∧
      (procedure (.pattern 3)).fingerprint = (procedure (.number 5)).fingerprint := by
  intro instr block procedure
  have placed : (procedure (.number 5)).blocks[0]? = some (block (.number 5)) := rfl
  have found : (block (.number 5)).instrs[0]? = some (instr (.number 5)) := rfl
  have held : (instr (.number 5)).operands[0]? = some (.number 5) := rfl
  have edited (new : Operand) :
      (procedure new).fingerprint = (procedure (.number 5)).fingerprint ↔
        new.fingerprint = (Operand.number 5).fingerprint := by
    obtain ⟨inBlocks, -⟩ := fingerprint_tells_edits (procedure (.number 5))
    obtain ⟨-, operands, -⟩ := inBlocks 0 (block (.number 5)) placed
    exact operands 0 (instr (.number 5)) 0 (.number 5) new found held
  refine ⟨placed, found, held, fun same => ?_, (edited _).mpr rfl⟩
  have collides := (edited _).mp same
  exact absurd collides (by decide)

end Procedure

end BackendIR
