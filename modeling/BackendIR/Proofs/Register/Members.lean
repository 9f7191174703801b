import Mathlib.Data.Finset.Basic
import Mathlib.Data.Finset.Lattice.Lemmas
import Mathlib.Logic.Function.Basic
import BackendIR.Procedure.Basic

/-!
# Register sets as finite sets

A register set stands for the finite set of its members
(`BackendIR.RegisterSet.members`). Every operation on masks is the operation on finite
sets of the same name, so a run of operations on any number of sets can be followed on
finite sets alone (`BackendIR.RegisterSet.Operation.members_run`). What can be asked of a
register set is then answered by its finite set
(`BackendIR.RegisterSet.reflects_members`), and that holds in particular of the registers
that a procedure has pinned (`BackendIR.RegisterSet.runs_reflect_finite_sets`).
-/

namespace BackendIR

/-- The catalog order: general purpose registers first, then by number. -/
def Register.Before (left right : Register) : Prop :=
  left.bank = .gp ∧ right.bank = .fp ∨ left.bank = right.bank ∧ left.index < right.index

namespace Register

private theorem Before.ne {left right : Register} (before : left.Before right) : left ≠ right := by
  rintro rfl
  rcases before with ⟨gp, fp⟩ | ⟨_, less⟩
  · rw [gp] at fp
    cases fp
  · exact Nat.lt_irrefl _ less

private theorem pairwise_before_bank (bank : Bank) :
    ((List.finRange 16).map (Register.mk bank)).Pairwise Before := by
  rw [List.pairwise_map]
  exact (List.pairwise_lt_finRange 16).imp fun less => .inr ⟨rfl, less⟩

/-- The catalog lists all registers in its order. -/
theorem pairwise_before_all : all.Pairwise Before := by
  unfold all
  rw [List.pairwise_append]
  refine ⟨pairwise_before_bank .gp, pairwise_before_bank .fp, ?_⟩
  intro left inGP right inFP
  obtain ⟨_, _, rfl⟩ := List.mem_map.mp inGP
  obtain ⟨_, _, rfl⟩ := List.mem_map.mp inFP
  exact .inl ⟨rfl, rfl⟩

/-- The registers that calls preserve, as a finite set. -/
def calleeSaved : Finset Register :=
  all.toFinset.filter fun register => register.isCalleeSave

end Register

namespace RegisterSet

/-- The finite set that a register set stands for. -/
def members (set : RegisterSet) : Finset Register :=
  set.toList.toFinset

/-- The members are the registers that the set contains. -/
@[simp] theorem mem_members {set : RegisterSet} {register : Register} :
    register ∈ set.members ↔ set.contains register = true := by
  simp [members]

@[simp] theorem members_empty : empty.members = ∅ := by
  ext register
  simp

/-- Inserting a register adds it to the members. -/
@[simp] theorem members_insert (set : RegisterSet) (added : Register) :
    (set.insert added).members = Insert.insert added set.members := by
  ext register
  simp

/-- Erasing a register takes it from the members. -/
@[simp] theorem members_erase (set : RegisterSet) (removed : Register) :
    (set.erase removed).members = set.members.erase removed := by
  ext register
  simp

/-- A union has the members of both sets. -/
@[simp] theorem members_union (left right : RegisterSet) :
    (left.union right).members = left.members ∪ right.members := by
  ext register
  simp

/-- An intersection has the common members. -/
@[simp] theorem members_inter (left right : RegisterSet) :
    (left.inter right).members = left.members ∩ right.members := by
  ext register
  simp

/-- Inserting registers one by one adds all of them. -/
theorem members_foldl_insert (registers : List Register) (set : RegisterSet) :
    (registers.foldl insert set).members = registers.toFinset ∪ set.members := by
  induction registers generalizing set with
  | nil => simp
  | cons register rest ih =>
      rw [List.foldl_cons, ih, members_insert, List.toFinset_cons, Finset.union_insert,
        Finset.insert_union]

/-- The set of preserved registers has exactly those as members. -/
@[simp] theorem members_calleeSaves : calleeSaves.members = Register.calleeSaved := by
  unfold calleeSaves ofList
  rw [members_foldl_insert, members_empty, Finset.union_empty, List.toFinset_filter]
  rfl

/-- No two register sets have the same members. -/
theorem members_injective : Function.Injective members := by
  intro left right same
  apply ext_contains
  intro register
  rw [Bool.eq_iff_iff, ← mem_members, ← mem_members, same]

/-- Only the empty set is said to be empty. -/
theorem isEmpty_iff_eq_empty {set : RegisterSet} : set.isEmpty = true ↔ set = empty := by
  unfold isEmpty
  rw [Bool.and_eq_true, beq_iff_eq, beq_iff_eq]
  constructor
  · rintro ⟨gp, fp⟩
    obtain ⟨gpMask, fpMask⟩ := set
    rw [empty, RegisterSet.mk.injEq]
    exact ⟨RegisterMask.ext gp, RegisterMask.ext fp⟩
  · rintro rfl
    exact ⟨rfl, rfl⟩

/-- Whatever is asked of the register set, the finite set gives the answer. -/
structure Reflects (set : RegisterSet) (registers : Finset Register) : Prop where
  contains_iff : ∀ register, set.contains register = true ↔ register ∈ registers
  toList_increasing : set.toList.Pairwise Register.Before
  toList_nodup : set.toList.Nodup
  mem_toList_iff : ∀ register, register ∈ set.toList ↔ register ∈ registers
  isEmpty_iff : set.isEmpty = true ↔ registers = ∅

/-- A register set answers every question as the set of its members does. -/
theorem reflects_members (set : RegisterSet) : set.Reflects set.members := by
  have increasing : set.toList.Pairwise Register.Before :=
    Register.pairwise_before_all.sublist List.filter_sublist
  refine ⟨fun register => mem_members.symm, increasing, increasing.imp Register.Before.ne, ?_, ?_⟩
  · intro register
    rw [mem_toList, mem_members]
  · rw [isEmpty_iff_eq_empty, ← members_empty]
    exact members_injective.eq_iff.symm

/-! ### Runs over several sets -/

/-- One change of one of several sets, each of which has a name. -/
inductive Operation (ι : Type) where
  | insert (target : ι) (register : Register)
  | erase (target : ι) (register : Register)
  | union (target other : ι)
  | inter (target other : ι)
  | calleeSaves (target : ι)

namespace Operation

variable {ι : Type} [DecidableEq ι]

/-- The register sets after an operation. -/
def apply (sets : ι → RegisterSet) : Operation ι → ι → RegisterSet
  | .insert target register => Function.update sets target ((sets target).insert register)
  | .erase target register => Function.update sets target ((sets target).erase register)
  | .union target other => Function.update sets target ((sets target).union (sets other))
  | .inter target other => Function.update sets target ((sets target).inter (sets other))
  | .calleeSaves target => Function.update sets target RegisterSet.calleeSaves

/-- The finite sets after the same operation. -/
def applyToFinsets (sets : ι → Finset Register) : Operation ι → ι → Finset Register
  | .insert target register => Function.update sets target (Insert.insert register (sets target))
  | .erase target register => Function.update sets target ((sets target).erase register)
  | .union target other => Function.update sets target (sets target ∪ sets other)
  | .inter target other => Function.update sets target (sets target ∩ sets other)
  | .calleeSaves target => Function.update sets target Register.calleeSaved

/-- **One operation** changes the members as it changes a finite set. -/
theorem members_apply (operation : Operation ι) (sets : ι → RegisterSet) :
    members ∘ operation.apply sets = operation.applyToFinsets (members ∘ sets) := by
  cases operation <;> simp [apply, applyToFinsets, Function.comp_update]

/-- **Runs of operations.** After any operations, the sets have the members that the same
operations on finite sets give. -/
theorem members_run (operations : List (Operation ι)) (sets : ι → RegisterSet) :
    members ∘ operations.foldl apply sets =
      operations.foldl applyToFinsets (members ∘ sets) := by
  induction operations generalizing sets with
  | nil => rfl
  | cons operation rest ih => rw [List.foldl_cons, List.foldl_cons, ih, members_apply]

end Operation

end RegisterSet

/-! ### Pinned registers -/

/-- One change of the registers that a procedure has pinned. -/
inductive Pinning where
  | pin (register : Register)
  | pinAll (registers : RegisterSet)
  | unpin (register : Register)

namespace Pinning

/-- The procedure after the change. -/
def apply (procedure : Procedure) : Pinning → Procedure
  | .pin register => procedure.pin register
  | .pinAll registers => procedure.pinAll registers
  | .unpin register => procedure.unpin register

/-- A finite set after the same change. -/
def applyToFinset (registers : Finset Register) : Pinning → Finset Register
  | .pin register => insert register registers
  | .pinAll added => registers ∪ added.members
  | .unpin register => registers.erase register

/-- Each change of the pinned registers changes their members as it says. -/
theorem members_pinned_apply (pinning : Pinning) (procedure : Procedure) :
    (pinning.apply procedure).pinned.members =
      pinning.applyToFinset procedure.pinned.members := by
  cases pinning with
  | pin register => exact RegisterSet.members_insert _ _
  | pinAll registers => exact RegisterSet.members_union _ _
  | unpin register => exact RegisterSet.members_erase _ _

/-- After any changes, the pinned registers are those that the same changes of a finite set
give. -/
theorem members_pinned_run (pinnings : List Pinning) (procedure : Procedure) :
    (pinnings.foldl apply procedure).pinned.members =
      pinnings.foldl applyToFinset procedure.pinned.members := by
  induction pinnings generalizing procedure with
  | nil => rfl
  | cons pinning rest ih => rw [List.foldl_cons, List.foldl_cons, ih, members_pinned_apply]

end Pinning

/-- **Register sets are finite sets of registers.** Run any operations on any number of
sets, and the same operations on finite sets: each register set has the members of its
finite set, lists them in catalog order without repetition, and is empty when it is; two
register sets are equal exactly when their finite sets are. The registers that a procedure
has pinned can be followed in the same way, and those to preserve are the ones that calls
preserve. -/
theorem RegisterSet.runs_reflect_finite_sets :
    (∀ (ι : Type) [DecidableEq ι] (operations : List (Operation ι)),
        let sets := operations.foldl Operation.apply fun _ => empty
        let finite := operations.foldl Operation.applyToFinsets fun _ => ∅
        (∀ name, (sets name).Reflects (finite name)) ∧
          ∀ left right, (sets left == sets right) = true ↔ finite left = finite right) ∧
      ∀ (procedure : Procedure) (pinnings : List Pinning),
        let after := pinnings.foldl Pinning.apply procedure
        let finite := pinnings.foldl Pinning.applyToFinset procedure.pinned.members
        after.pinned.Reflects finite ∧
          after.pinnedSaves.Reflects (Register.calleeSaved ∩ finite) := by
  constructor
  · intro ι _ operations sets finite
    have followed : ∀ name, (sets name).members = finite name := by
      intro name
      have run := congrFun (Operation.members_run operations fun _ => empty) name
      simpa only [Function.comp_def, members_empty] using run
    constructor
    · intro name
      rw [← followed]
      exact (sets name).reflects_members
    · intro left right
      rw [beq_iff_eq, ← followed, ← followed, members_injective.eq_iff]
  · intro procedure pinnings after finite
    have pinned : after.pinned.members = finite := Pinning.members_pinned_run pinnings procedure
    constructor
    · rw [← pinned]
      exact after.pinned.reflects_members
    · rw [← pinned, ← members_calleeSaves, ← members_inter]
      exact after.pinnedSaves.reflects_members

end BackendIR
