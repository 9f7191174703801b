import Mathlib.Data.Nat.ModEq
import BackendIR.Proofs.Fingerprint.Edits

/-!
# Fingerprints tell the order

Two neighbours are mixed into a fingerprint one after the other, so the first is multiplied
once more than the second. Their exchange shifts the sum by the difference of their
contributions, times the multiplier less one. That factor is even, so it has no inverse in
wrapping arithmetic, and some exchanges go unnoticed: just those of contributions that are
congruent modulo the factor's period (`BackendIR.Reversible.foldl_mix_swap_iff`). What is mixed
in afterwards hides nothing more, whence the exact collisions among the instructions of a
block, its edges, and the slots of a procedure
(`BackendIR.Procedure.fingerprint_tells_order`).
-/

namespace BackendIR

/-! ### Words that a factor makes equal -/

/-- The least number of steps after which the multiples of a word come round to zero. -/
def period (factor : UInt32) : Nat :=
  UInt32.size / Nat.gcd UInt32.size factor.toNat

private theorem size_dvd_period_mul (factor : UInt32) :
    UInt32.size ∣ period factor * factor.toNat := by
  obtain ⟨rest, shared⟩ := Nat.gcd_dvd_right UInt32.size factor.toNat
  have whole : period factor * Nat.gcd UInt32.size factor.toNat = UInt32.size :=
    Nat.div_mul_cancel (Nat.gcd_dvd_left _ _)
  refine ⟨rest, ?_⟩
  calc period factor * factor.toNat
      = period factor * (Nat.gcd UInt32.size factor.toNat * rest) := by rw [← shared]
    _ = UInt32.size * rest := by rw [← Nat.mul_assoc, whole]

/-- A product tells its first factor up to the period of the second. -/
theorem mul_eq_mul_iff_modEq (left right factor : UInt32) :
    left * factor = right * factor ↔ left.toNat ≡ right.toNat [MOD period factor] := by
  have wraps : left * factor = right * factor ↔
      left.toNat * factor.toNat ≡ right.toNat * factor.toNat [MOD UInt32.size] := by
    rw [← UInt32.toNat_inj, UInt32.toNat_mul, UInt32.toNat_mul]
    rfl
  rw [wraps]
  constructor
  · exact fun same => same.cancel_right_div_gcd (by decide)
  · exact fun near => (near.mul_right' factor.toNat).of_dvd (size_dvd_period_mul factor)

private theorem period_instr : period (97 - 1) = 2 ^ 27 := rfl

private theorem period_target : period (7 - 1) = 2 ^ 31 := rfl

private theorem period_slot : period (101 - 1) = 2 ^ 30 := rfl

/-! ### Neighbours in a fold -/

/-- Two contributions can be mixed in either order exactly if they agree modulo the period. -/
theorem mix_mix_comm_iff (multiplier sum first second : UInt32) :
    (sum * multiplier + second) * multiplier + first =
        (sum * multiplier + first) * multiplier + second ↔
      first.toNat ≡ second.toNat [MOD period (multiplier - 1)] := by
  -- The sum before drops out; what is left of each item is its part in the shift.
  have shift : (sum * multiplier + second) * multiplier + first =
      (sum * multiplier + first) * multiplier + second ↔
        first * (multiplier - 1) = second * (multiplier - 1) := by
    constructor <;> intro same <;> grind
  rw [shift, mul_eq_mul_iff_modEq]

/-- Swapping two neighbours keeps a mixed sum exactly if their contributions agree modulo the
period. -/
theorem Reversible.foldl_mix_swap_iff {α : Type} {multiplier : UInt32}
    (reversible : Reversible multiplier) (code : α → UInt32) (front back : List α)
    (first second : α) (start : UInt32) :
    (front ++ second :: first :: back).foldl (fun sum item => sum * multiplier + code item) start =
        (front ++ first :: second :: back).foldl
          (fun sum item => sum * multiplier + code item) start ↔
      (code first).toNat ≡ (code second).toNat [MOD period (multiplier - 1)] := by
  rw [List.foldl_append, List.foldl_append]
  have behind := reversible.foldl_mix_injective code back
  exact behind.eq_iff.trans (mix_mix_comm_iff multiplier _ _ _)

/-! ### Blocks and procedures -/

namespace Block

/-- Swapping neighbouring instructions keeps a block's contribution exactly if their fingerprints
agree modulo the period. -/
theorem fold_swap_instrs {block : Block} {front back : List Instr} {first second : Instr}
    (held : block.instrs = front ++ first :: second :: back) (sum : UInt32) :
    fold sum { block with instrs := front ++ second :: first :: back } = fold sum block ↔
      first.fingerprint.toNat ≡ second.fingerprint.toNat [MOD 2 ^ 27] := by
  -- The edges come after the instructions; what they add can be undone.
  have behind := reversible_target.foldl_mix_injective BlockId.index block.targets
  have swapped := reversible_instr.foldl_mix_swap_iff Instr.fingerprint front back first second
    (sum * 1000001)
  rw [period_instr, ← held] at swapped
  exact behind.eq_iff.trans swapped

/-- Swapping neighbouring edges keeps a block's contribution exactly if their targets agree modulo
the period. -/
theorem fold_swap_successors {block : Block} {front back : List Edge} {first second : Edge}
    (held : block.successors = front ++ first :: second :: back) (sum : UInt32) :
    fold sum { block with successors := front ++ second :: first :: back } = fold sum block ↔
      first.target.index.toNat ≡ second.target.index.toNat [MOD 2 ^ 31] := by
  have listed : block.targets =
      front.map Edge.target ++ first.target :: second.target :: back.map Edge.target := by
    rw [targets, held, List.map_append]
    rfl
  have exchanged : { block with successors := front ++ second :: first :: back }.targets =
      front.map Edge.target ++ second.target :: first.target :: back.map Edge.target :=
    List.map_append
  have swapped := reversible_target.foldl_mix_swap_iff BlockId.index (front.map Edge.target)
    (back.map Edge.target) first.target second.target
  rw [period_target] at swapped
  rw [fold, fold, exchanged, listed]
  exact swapped _

end Block

namespace Procedure

/-- Swapping neighbouring slots keeps the fingerprint exactly if those of the slots agree modulo
the period. -/
theorem fingerprint_swap_slots {procedure : Procedure} {front back : List StackSlot}
    {first second : StackSlot} (held : procedure.slots = front ++ first :: second :: back) :
    { procedure with slots := front ++ second :: first :: back }.fingerprint =
        procedure.fingerprint ↔
      first.fingerprint.toNat ≡ second.fingerprint.toNat [MOD 2 ^ 30] := by
  have swapped := reversible_slot.foldl_mix_swap_iff StackSlot.fingerprint front back first second
    (procedure.blocks.foldl Block.fold 0)
  rwa [period_slot, ← held] at swapped

/-- **Fingerprints tell the order.** An exchange of neighbours in the instructions of a block,
in its edges or in the slots leaves the fingerprint as it is exactly if the two fingerprints, or
the two targets, are congruent modulo a power of two of their own. -/
theorem fingerprint_tells_order (procedure : Procedure) :
    (∀ (position : Nat) (block : Block), procedure.blocks[position]? = some block →
      (∀ (front back : List Instr) (first second : Instr),
        block.instrs = front ++ first :: second :: back →
        ((procedure.withBlock position
            { block with instrs := front ++ second :: first :: back }).fingerprint =
              procedure.fingerprint ↔
          first.fingerprint.toNat ≡ second.fingerprint.toNat [MOD 2 ^ 27])) ∧
      ∀ (front back : List Edge) (first second : Edge),
        block.successors = front ++ first :: second :: back →
        ((procedure.withBlock position
            { block with successors := front ++ second :: first :: back }).fingerprint =
              procedure.fingerprint ↔
          first.target.index.toNat ≡ second.target.index.toNat [MOD 2 ^ 31])) ∧
      ∀ (front back : List StackSlot) (first second : StackSlot),
        procedure.slots = front ++ first :: second :: back →
        ({ procedure with slots := front ++ second :: first :: back }.fingerprint =
            procedure.fingerprint ↔
          first.fingerprint.toNat ≡ second.fingerprint.toNat [MOD 2 ^ 30]) := by
  refine ⟨fun position block placed => ⟨?_, ?_⟩, ?_⟩
  · intro front back first second held
    rw [fingerprint_withBlock placed, Block.fold_swap_instrs held]
  · intro front back first second held
    rw [fingerprint_withBlock placed, Block.fold_swap_successors held]
  · intro front back first second held
    exact fingerprint_swap_slots held

/-- In each of the three places, two neighbours whose exchange goes unnoticed, as immediates,
targets or sizes lie just far enough apart, and two whose exchange shows. -/
theorem fingerprint_tells_order_far_apart :
    let instr (value : Int32) : Instr := ⟨⟨1, "Move"⟩, [.number value], .none⟩
    let edge (target : UInt32) : Edge := ⟨⟨target⟩, .one⟩
    let slot (size : UInt32) : StackSlot := .fresh ⟨0⟩ size .spill
    let block (values : List Int32) (targets : List UInt32) : Block :=
      { Block.fresh ⟨0⟩ .one with instrs := values.map instr, successors := targets.map edge }
    let procedure (values : List Int32) (targets sizes : List UInt32) : Procedure :=
      { Procedure.empty with
        blocks := [block values targets, Block.fresh ⟨1⟩ .one], slots := sizes.map slot }
    let values : List Int32 := [5, 134217733, 6]
    let targets : List UInt32 := [1, 2147483649, 0]
    let sizes : List UInt32 := [8, 1073741832, 4]
    let plain := procedure values targets sizes
    plain.blocks[0]? = some (block values targets) ∧
      (procedure [134217733, 5, 6] targets sizes).fingerprint = plain.fingerprint ∧
      (procedure [5, 6, 134217733] targets sizes).fingerprint ≠ plain.fingerprint ∧
      (procedure values [2147483649, 1, 0] sizes).fingerprint = plain.fingerprint ∧
      (procedure values [1, 0, 2147483649] sizes).fingerprint ≠ plain.fingerprint ∧
      (procedure values targets [1073741832, 8, 4]).fingerprint = plain.fingerprint ∧
      (procedure values targets [8, 4, 1073741832]).fingerprint ≠ plain.fingerprint := by
  intro instr edge slot block procedure values targets sizes plain
  have placed : plain.blocks[0]? = some (block values targets) := rfl
  obtain ⟨inBlocks, slots⟩ := fingerprint_tells_order plain
  obtain ⟨instrs, edges⟩ := inBlocks 0 (block values targets) placed
  refine ⟨placed, (instrs [] [instr 6] (instr 5) (instr 134217733) rfl).mpr (by decide), ?_,
    (edges [] [edge 0] (edge 1) (edge 2147483649) rfl).mpr (by decide), ?_,
    (slots [] [slot 4] (slot 8) (slot 1073741832) rfl).mpr (by decide), ?_⟩
  · apply mt (instrs [instr 5] [] (instr 134217733) (instr 6) rfl).mp
    decide
  · apply mt (edges [edge 1] [] (edge 2147483649) (edge 0) rfl).mp
    decide
  · apply mt (slots [slot 8] [] (slot 1073741832) (slot 4) rfl).mp
    decide

end Procedure

end BackendIR
