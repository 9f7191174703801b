import BackendIR.Insertion

/-!
# The order of a batch

Sorting a batch by position is stable: the insertions before one position form a
*group* (`BackendIR.Insertion.group`), and sorting keeps every group as it is. An
ordered list of insertions is determined by its groups
(`BackendIR.Insertion.Ordered.eq_of_group_eq`), so a batch that is sorted early,
added to and sorted again ends in the order of a batch that is sorted once
(`BackendIR.Batch.sorted_add_sorted`).
-/

namespace BackendIR

variable {α : Type}

namespace Insertion

/-- The insertions before one position, in the order in which they stand. -/
def group (insertions : List (Insertion α)) (position : Nat) : List (Insertion α) :=
  insertions.filter fun insertion => insertion.index = position

/-- The elements to insert before one position, in the order in which they stand. -/
def gap (insertions : List (Insertion α)) (position : Nat) : List α :=
  (group insertions position).map element

/-- Positions never decrease along the list. -/
def Ordered (insertions : List (Insertion α)) : Prop :=
  insertions.Pairwise fun first second => first.index ≤ second.index

/-- The same insertions in the order of their positions, with every group as it
was before. -/
structure StablySorted (before after : List (Insertion α)) : Prop where
  perm : after.Perm before
  ordered : Ordered after
  group_eq : ∀ position, group after position = group before position

@[simp] private theorem group_append (first second : List (Insertion α)) (position : Nat) :
    group (first ++ second) position = group first position ++ group second position :=
  List.filter_append ..

private theorem group_cons (insertion : Insertion α) (rest : List (Insertion α)) (position : Nat) :
    group (insertion :: rest) position =
      if insertion.index = position then insertion :: group rest position
      else group rest position := by
  simp only [group, List.filter_cons, decide_eq_true_eq]

private theorem mem_group {insertions : List (Insertion α)} {position : Nat}
    {insertion : Insertion α} :
    insertion ∈ group insertions position ↔
      insertion ∈ insertions ∧ insertion.index = position := by
  simp only [group, List.mem_filter, decide_eq_true_eq]

/-- The gaps of two lists are filled by the first list before the second. -/
@[simp] theorem gap_append (first second : List (Insertion α)) (position : Nat) :
    gap (first ++ second) position = gap first position ++ gap second position := by
  rw [gap, group_append, List.map_append]
  rfl

/-- One insertion fills the gap at its own position. -/
theorem gap_singleton (insertion : Insertion α) (position : Nat) :
    gap [insertion] position = if insertion.index = position then [insertion.element] else [] := by
  rw [gap, group_cons]
  split <;> rfl

/-- A gap that no insertion names stays empty. -/
theorem gap_eq_nil {insertions : List (Insertion α)} {position : Nat}
    (absent : ∀ insertion ∈ insertions, insertion.index ≠ position) :
    gap insertions position = [] := by
  rw [gap, List.map_eq_nil_iff, group, List.filter_eq_nil_iff]
  intro insertion member
  rw [decide_eq_true_eq]
  exact absent insertion member

/-- Every insertion is found in the group of its own position. -/
theorem mem_of_group_eq {first second : List (Insertion α)}
    (groups : ∀ position, group first position = group second position)
    {insertion : Insertion α} (member : insertion ∈ first) : insertion ∈ second := by
  have grouped : insertion ∈ group first insertion.index := mem_group.mpr ⟨member, rfl⟩
  rw [groups] at grouped
  exact (mem_group.mp grouped).1

private theorem Ordered.head_le {head : Insertion α} {rest : List (Insertion α)}
    (ordered : Ordered (head :: rest)) {insertion : Insertion α}
    (member : insertion ∈ head :: rest) : head.index ≤ insertion.index := by
  rcases List.mem_cons.mp member with rfl | later
  · exact Nat.le_refl _
  · exact (List.pairwise_cons.mp ordered).1 insertion later

/-- **An ordered list is determined by its groups.** Two ordered lists with the same insertions in
the same order at every position are equal. -/
theorem Ordered.eq_of_group_eq {first second : List (Insertion α)} (firstOrdered : Ordered first)
    (secondOrdered : Ordered second)
    (groups : ∀ position, group first position = group second position) : first = second := by
  induction first generalizing second with
  | nil =>
      refine (List.eq_nil_iff_forall_not_mem.mpr fun insertion member => ?_).symm
      exact List.not_mem_nil (mem_of_group_eq (fun position => (groups position).symm) member)
  | cons head rest ih =>
      cases second with
      | nil => exact absurd (mem_of_group_eq groups List.mem_cons_self) List.not_mem_nil
      | cons other others =>
          -- Both heads stand before the least position, and they lead its group.
          have least : head.index = other.index :=
            Nat.le_antisymm
              (firstOrdered.head_le
                (mem_of_group_eq (fun position => (groups position).symm) List.mem_cons_self))
              (secondOrdered.head_le (mem_of_group_eq groups List.mem_cons_self))
          have leading := groups head.index
          rw [group_cons, group_cons, if_pos rfl, if_pos least.symm] at leading
          obtain ⟨rfl, _⟩ := List.cons.inj leading
          congr 1
          apply ih (List.pairwise_cons.mp firstOrdered).2 (List.pairwise_cons.mp secondOrdered).2
          intro position
          have same := groups position
          rw [group_cons, group_cons] at same
          by_cases own : head.index = position
          · rw [if_pos own, if_pos own] at same
            exact (List.cons.inj same).2
          · rwa [if_neg own, if_neg own] at same

end Insertion

namespace Batch

open Insertion

private theorem index_le_trans (first second third : Insertion α)
    (left : decide (first.index ≤ second.index)) (right : decide (second.index ≤ third.index)) :
    decide (first.index ≤ third.index) := by
  rw [decide_eq_true_eq] at left right ⊢
  exact Nat.le_trans left right

private theorem index_le_total (first second : Insertion α) :
    decide (first.index ≤ second.index) || decide (second.index ≤ first.index) := by
  rw [Bool.or_eq_true, decide_eq_true_eq, decide_eq_true_eq]
  exact Nat.le_total ..

/-- Sorting keeps every insertion. -/
theorem sorted_perm (batch : Batch α) : batch.sorted.pending.Perm batch.pending :=
  List.mergeSort_perm ..

/-- A sorted batch is in order of positions. -/
theorem sorted_ordered (batch : Batch α) : Ordered batch.sorted.pending := by
  refine (List.pairwise_mergeSort index_le_trans index_le_total batch.pending).imp ?_
  intro first second
  exact of_decide_eq_true

/-- Sorting keeps the order of insertions at one position. -/
@[simp] theorem group_sorted (batch : Batch α) (position : Nat) :
    group batch.sorted.pending position = group batch.pending position := by
  -- A group is in order already, so the sort keeps it as a sublist, and nothing joins it.
  have inOrder : (group batch.pending position).Pairwise fun first second =>
      decide (first.index ≤ second.index) := by
    refine List.pairwise_of_forall_mem_list ?_
    intro first firstMember second secondMember
    have same : first.index = second.index :=
      (mem_group.mp firstMember).2.trans (mem_group.mp secondMember).2.symm
    exact decide_eq_true (Nat.le_of_eq same)
  have kept : (group batch.pending position).Sublist batch.sorted.pending :=
    List.sublist_mergeSort index_le_trans index_le_total inOrder List.filter_sublist
  have within : (group batch.pending position).Sublist (group batch.sorted.pending position) := by
    have filtered := kept.filter fun insertion => insertion.index = position
    simpa only [group, List.filter_filter, Bool.and_self] using filtered
  have sizes : (group batch.pending position).length =
      (group batch.sorted.pending position).length :=
    (batch.sorted_perm.filter _).length_eq.symm
  exact (within.eq_of_length sizes).symm

/-- Sorting changes nothing about what fills a gap. -/
@[simp] theorem gap_sorted (batch : Batch α) (position : Nat) :
    gap batch.sorted.pending position = gap batch.pending position := by
  rw [gap, group_sorted]
  rfl

/-- **Sorting a batch is stable.** The sorted batch has the same insertions in order of positions,
and those at one position in the order in which they were added. -/
theorem sorted_stablySorted (batch : Batch α) :
    StablySorted batch.pending batch.sorted.pending :=
  ⟨batch.sorted_perm, batch.sorted_ordered, batch.group_sorted⟩

/-- Batches with the same groups sort alike. -/
theorem sorted_eq_of_group_eq {first second : Batch α}
    (groups : ∀ position, group first.pending position = group second.pending position) :
    first.sorted = second.sorted := by
  have pendings : first.sorted.pending = second.sorted.pending := by
    apply first.sorted_ordered.eq_of_group_eq second.sorted_ordered
    intro position
    rw [group_sorted, group_sorted, groups]
  exact congrArg Batch.mk pendings

/-- Sorting again changes nothing. -/
@[simp] theorem sorted_sorted (batch : Batch α) : batch.sorted.sorted = batch.sorted :=
  sorted_eq_of_group_eq batch.group_sorted

/-- Sorting before an insertion is added makes no difference to sorting after it. -/
theorem sorted_add_sorted (batch : Batch α) (insertion : Insertion α) :
    (batch.sorted.add insertion).sorted = (batch.add insertion).sorted := by
  apply sorted_eq_of_group_eq
  intro position
  simp only [add, group_append, group_sorted]

end Batch

end BackendIR
