import BackendIR.Register

/-!
# Register sets

A set of registers is one 64-bit mask for each bank: bit `i` of a mask says whether
register `i` of that bank is a member. A bank has sixteen registers, so no bit from
the sixteenth on is ever set; without that, sets with the same members could differ
in bits that stand for nothing.
-/

namespace BackendIR

/-- The members of a set in one bank. -/
@[ext]
structure RegisterMask where
  word : BitVec 64
  /-- Only the low sixteen bits stand for registers. -/
  unused : ∀ bit, 16 ≤ bit → word.getLsbD bit = false
  deriving DecidableEq

namespace RegisterMask

/-- The word with the bit of one register. -/
def bit (index : Fin 16) : BitVec 64 := BitVec.twoPow 64 index

theorem getLsbD_bit (index : Fin 16) (position : Nat) :
    (bit index).getLsbD position = decide ((index : Nat) = position) := by
  have inside : (index : Nat) < 64 := by omega
  simp [bit, BitVec.getLsbD_twoPow, inside]

/-- No register. -/
def empty : RegisterMask where
  word := 0
  unused := by simp

/-- Whether the bit of a register is set. -/
def contains (mask : RegisterMask) (index : Fin 16) : Bool :=
  mask.word &&& bit index != 0

/-- The mask with the bit of a register set. -/
def insert (mask : RegisterMask) (index : Fin 16) : RegisterMask where
  word := mask.word ||| bit index
  unused := fun position above => by
    have other : (index : Nat) ≠ position := by omega
    simp [mask.unused position above, getLsbD_bit, other]

/-- The mask with the bit of a register cleared. -/
def erase (mask : RegisterMask) (index : Fin 16) : RegisterMask where
  word := mask.word &&& ~~~(bit index)
  unused := fun position above => by simp [mask.unused position above]

/-- The bits that are set in either mask. -/
def union (left right : RegisterMask) : RegisterMask where
  word := left.word ||| right.word
  unused := fun position above => by
    simp [left.unused position above, right.unused position above]

/-- The bits that are set in both masks. -/
def inter (left right : RegisterMask) : RegisterMask where
  word := left.word &&& right.word
  unused := fun position above => by simp [left.unused position above]

/-- Testing a word against one bit reads that bit. -/
theorem contains_eq_getLsbD (mask : RegisterMask) (index : Fin 16) :
    mask.contains index = mask.word.getLsbD index := by
  have nonzero : BitVec.twoPow 64 index ≠ 0 := fun zero => by
    have here := getLsbD_bit index index
    simp [bit, zero] at here
  unfold contains bit
  rw [BitVec.and_twoPow]
  cases mask.word.getLsbD index with
  | false => simp
  | true => simpa using nonzero

@[simp] theorem contains_empty (index : Fin 16) : empty.contains index = false := by
  simp [contains_eq_getLsbD, empty]

@[simp] theorem contains_insert (mask : RegisterMask) (added index : Fin 16) :
    (mask.insert added).contains index = (decide (index = added) || mask.contains index) := by
  simp only [contains_eq_getLsbD, insert, BitVec.getLsbD_or, getLsbD_bit]
  rw [Bool.or_comm]
  simp [Fin.ext_iff, eq_comm]

@[simp] theorem contains_erase (mask : RegisterMask) (removed index : Fin 16) :
    (mask.erase removed).contains index = (!decide (index = removed) && mask.contains index) := by
  have inside : (index : Nat) < 64 := by omega
  simp only [contains_eq_getLsbD, erase, BitVec.getLsbD_and, BitVec.getLsbD_not, getLsbD_bit]
  rw [Bool.and_comm]
  simp [Fin.ext_iff, eq_comm, inside]

@[simp] theorem contains_union (left right : RegisterMask) (index : Fin 16) :
    (left.union right).contains index = (left.contains index || right.contains index) := by
  simp only [contains_eq_getLsbD, union, BitVec.getLsbD_or]

@[simp] theorem contains_inter (left right : RegisterMask) (index : Fin 16) :
    (left.inter right).contains index = (left.contains index && right.contains index) := by
  simp only [contains_eq_getLsbD, inter, BitVec.getLsbD_and]

/-- Masks with the same registers are equal: they have no other bits to differ in. -/
theorem ext_contains {left right : RegisterMask}
    (same : ∀ index, left.contains index = right.contains index) : left = right := by
  apply RegisterMask.ext
  refine BitVec.eq_of_getLsbD_eq fun position _ => ?_
  by_cases register : position < 16
  · simpa only [contains_eq_getLsbD] using same ⟨position, register⟩
  · rw [left.unused position (by omega), right.unused position (by omega)]

end RegisterMask

/-- A set of registers. -/
structure RegisterSet where
  gp : RegisterMask
  fp : RegisterMask
  deriving DecidableEq

namespace RegisterSet

/-- The set with no members. -/
def empty : RegisterSet := ⟨.empty, .empty⟩

/-- The mask of one bank. -/
def mask (set : RegisterSet) : Bank → RegisterMask
  | .gp => set.gp
  | .fp => set.fp

/-- The set with the mask of one bank changed. -/
def modifyMask (set : RegisterSet) (bank : Bank) (change : RegisterMask → RegisterMask) :
    RegisterSet :=
  match bank with
  | .gp => { set with gp := change set.gp }
  | .fp => { set with fp := change set.fp }

/-- Whether a register is a member. -/
def contains (set : RegisterSet) (register : Register) : Bool :=
  (set.mask register.bank).contains register.index

/-- The set with a register added. -/
def insert (set : RegisterSet) (register : Register) : RegisterSet :=
  set.modifyMask register.bank (·.insert register.index)

/-- The set with a register removed. -/
def erase (set : RegisterSet) (register : Register) : RegisterSet :=
  set.modifyMask register.bank (·.erase register.index)

/-- The registers that are in either set. -/
def union (left right : RegisterSet) : RegisterSet :=
  ⟨left.gp.union right.gp, left.fp.union right.fp⟩

/-- The registers that are in both sets. -/
def inter (left right : RegisterSet) : RegisterSet :=
  ⟨left.gp.inter right.gp, left.fp.inter right.fp⟩

/-- Whether the set has no members. -/
def isEmpty (set : RegisterSet) : Bool :=
  set.gp.word == 0 && set.fp.word == 0

/-- The members in catalog order. -/
def toList (set : RegisterSet) : List Register :=
  Register.all.filter set.contains

@[simp] theorem contains_empty (register : Register) : empty.contains register = false := by
  obtain ⟨bank, index⟩ := register
  cases bank <;> simp [contains, mask, empty]

/-- A set gains the register that is added, and nothing else. -/
@[simp] theorem contains_insert (set : RegisterSet) (added register : Register) :
    (set.insert added).contains register =
      (decide (register = added) || set.contains register) := by
  obtain ⟨addedBank, addedIndex⟩ := added
  obtain ⟨bank, index⟩ := register
  cases addedBank <;> cases bank <;> simp [contains, insert, mask, modifyMask]

/-- A set loses the register that is removed, and nothing else. -/
@[simp] theorem contains_erase (set : RegisterSet) (removed register : Register) :
    (set.erase removed).contains register =
      (!decide (register = removed) && set.contains register) := by
  obtain ⟨removedBank, removedIndex⟩ := removed
  obtain ⟨bank, index⟩ := register
  cases removedBank <;> cases bank <;> simp [contains, erase, mask, modifyMask]

@[simp] theorem contains_union (left right : RegisterSet) (register : Register) :
    (left.union right).contains register =
      (left.contains register || right.contains register) := by
  obtain ⟨bank, index⟩ := register
  cases bank <;> simp [contains, union, mask]

@[simp] theorem contains_inter (left right : RegisterSet) (register : Register) :
    (left.inter right).contains register =
      (left.contains register && right.contains register) := by
  obtain ⟨bank, index⟩ := register
  cases bank <;> simp [contains, inter, mask]

/-- Sets with the same members are equal. -/
theorem ext_contains {left right : RegisterSet}
    (same : ∀ register, left.contains register = right.contains register) : left = right := by
  obtain ⟨leftGP, leftFP⟩ := left
  obtain ⟨rightGP, rightFP⟩ := right
  have gp : leftGP = rightGP := RegisterMask.ext_contains fun index => same ⟨.gp, index⟩
  have fp : leftFP = rightFP := RegisterMask.ext_contains fun index => same ⟨.fp, index⟩
  rw [gp, fp]

@[simp] theorem mem_toList {set : RegisterSet} {register : Register} :
    register ∈ set.toList ↔ set.contains register = true := by
  simp [toList, Register.mem_all]

/-- The set of the registers in a list. -/
def ofList (registers : List Register) : RegisterSet :=
  registers.foldl insert empty

/-- The registers that calls preserve. -/
def calleeSaves : RegisterSet :=
  ofList (Register.all.filter Register.isCalleeSave)

end RegisterSet

end BackendIR
