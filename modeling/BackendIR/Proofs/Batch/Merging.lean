import BackendIR.Proofs.Batch.Splitting

/-!
# The merge while it runs

The merge does not check what it does: it subtracts from each position what is used of the
target, and takes as many elements of the rest as that gives. Between two insertions of an
accepted batch this is safe (`BackendIR.Batch.merge_runs_safely`), since the insertions are ordered
and lie within the target.

Elements do not show where they come from. To speak of the old elements among the merged ones,
the merge is run on marked elements (`BackendIR.Merge.marked`); it goes the same way and differs in
the marks only (`BackendIR.Merge.unmarked_marked`), because merging is natural in its elements
(`BackendIR.Merge.run_map`).
-/

namespace BackendIR

variable {α β : Type}

namespace Insertion

/-- The insertion with its element changed. -/
def map (change : α → β) (insertion : Insertion α) : Insertion β :=
  ⟨insertion.index, change insertion.element⟩

private theorem gap_map (change : α → β) (insertions : List (Insertion α)) (position : Nat) :
    gap (insertions.map (map change)) position = (gap insertions position).map change := by
  rw [gap, group, List.filter_map, List.map_map, gap, List.map_map]
  rfl

end Insertion

namespace Merge

open Insertion

/-! ### Marks -/

/-- The merge with all of its elements changed. -/
def map (change : α → β) (merge : Merge α) : Merge β :=
  ⟨merge.consumed, merge.merged.map change, merge.rest.map change⟩

/-- The merge of elements that are marked on the left if they are of the target, and on the
right if they are inserted. -/
def marked (target : List α) (insertions : List (Insertion α)) : Merge (α ⊕ α) :=
  run (target.map .inl) (insertions.map (Insertion.map .inr))

private theorem step_map (change : α → β) (merge : Merge α) (insertion : Insertion α) :
    (merge.map change).step (insertion.map change) = (merge.step insertion).map change := by
  simp only [step, map, Insertion.map, List.map_append, List.map_take, List.map_drop,
    List.map_singleton]

/-- **Merging is natural.** Changing the elements before or after makes no difference. -/
theorem run_map (change : α → β) (target : List α) (insertions : List (Insertion α)) :
    run (target.map change) (insertions.map (Insertion.map change)) =
      (run target insertions).map change := by
  rw [run, List.foldl_map]
  change List.foldl _ ((start target).map change) insertions =
    (List.foldl step (start target) insertions).map change
  exact List.foldl_hom (map change) (step_map change)

/-- The marks make no difference. -/
theorem unmarked_marked (target : List α) (insertions : List (Insertion α)) :
    (marked target insertions).map (Sum.elim id id) = run target insertions := by
  have originals : (target.map Sum.inl).map (Sum.elim id id) = target := by
    rw [List.map_map]
    exact List.map_id target
  have inserted : (insertions.map (Insertion.map Sum.inr)).map (Insertion.map (Sum.elim id id)) =
      insertions := by
    rw [List.map_map]
    exact List.map_id insertions
  rw [marked, ← run_map, originals, inserted]

private theorem consumed_marked (target : List α) (insertions : List (Insertion α)) :
    (marked target insertions).consumed = (run target insertions).consumed :=
  congrArg consumed (unmarked_marked target insertions)

/-! ### Prefixes of the run -/

private theorem run_concat (target : List α) (done : List (Insertion α)) (insertion : Insertion α) :
    run target (done ++ [insertion]) = (run target done).step insertion :=
  List.foldl_concat ..

/-- No more is used than the largest position asks for. -/
theorem consumed_run_le {target : List α} {done : List (Insertion α)} {bound : Nat}
    (below : ∀ insertion ∈ done, insertion.index ≤ bound) :
    (run target done).consumed ≤ bound := by
  rcases List.eq_nil_or_concat done with rfl | ⟨earlier, last, rfl⟩
  · exact Nat.zero_le bound
  · rw [List.concat_eq_append] at below ⊢
    rw [run_concat]
    exact below last List.mem_concat_self

/-- As much is merged as is used and inserted. -/
theorem Underway.length_merged {target : List α} {done : List (Insertion α)} {merge : Merge α}
    (underway : merge.Underway target done) :
    merge.merged.length = merge.consumed + done.length := by
  have counted : (done.countP fun insertion => insertion.index ≤ merge.consumed) = done.length := by
    rw [List.countP_eq_length]
    exact fun insertion member => decide_eq_true (underway.index_le insertion member)
  rw [underway.merged_eq, length_interleave, List.length_take_of_le underway.consumed_le,
    landing_gap, counted]

/-- The rest is long enough for an insertion within the target. -/
theorem Underway.length_take_rest {target : List α} {done : List (Insertion α)} {merge : Merge α}
    (underway : merge.Underway target done) {insertion : Insertion α}
    (within : insertion.index ≤ target.length) :
    (merge.rest.take (insertion.index - merge.consumed)).length =
      insertion.index - merge.consumed := by
  apply List.length_take_of_le
  rw [underway.rest_eq, List.length_drop]
  exact Nat.sub_le_sub_right within _

/-- When the merge comes to an insertion, the subtraction is exact and the rest is long enough. -/
theorem run_ready {target : List α} {done : List (Insertion α)} {insertion : Insertion α}
    (ordered : Ordered (done ++ [insertion]))
    (within : ∀ other ∈ done ++ [insertion], other.index ≤ target.length) :
    (run target done).consumed ≤ insertion.index ∧
      ((run target done).rest.take (insertion.index - (run target done).consumed)).length =
        insertion.index - (run target done).consumed := by
  obtain ⟨doneOrdered, -, below⟩ := List.pairwise_append.mp ordered
  have underway := run_underway doneOrdered fun other member =>
    within other (List.mem_append_left _ member)
  constructor
  · exact consumed_run_le fun other member => below other member insertion List.mem_cons_self
  · exact underway.length_take_rest (within insertion List.mem_concat_self)

/-- The old elements among the merged ones are the used ones. -/
theorem originals_marked {target : List α} {done : List (Insertion α)} (ordered : Ordered done)
    (within : ∀ insertion ∈ done, insertion.index ≤ target.length) :
    (marked target done).merged.filterMap Sum.getLeft? =
      target.take (run target done).consumed := by
  have underway : (marked target done).Underway (target.map .inl)
      (done.map (Insertion.map .inr)) := by
    apply run_underway
    · exact List.pairwise_map.mpr ordered
    · rw [List.forall_mem_map, List.length_map]
      exact within
  have skipped (position : Nat) :
      (gap (done.map (Insertion.map (Sum.inr : α → α ⊕ α))) position).filterMap Sum.getLeft? =
        [] := by
    rw [gap_map, List.filterMap_map]
    exact List.filterMap_eq_nil_iff.mpr fun _ _ => rfl
  rw [underway.merged_eq, filterMap_interleave skipped, consumed_marked, ← List.map_take,
    List.filterMap_map]
  exact List.filterMap_some

end Merge

namespace Batch

open Insertion

/-- Every position of an accepted batch lies within the target. -/
theorem fits_of_ok {batch : Batch α} {target : List α} {count : Nat}
    (accepted : (batch.commit target).outcome = .ok count) :
    ∀ insertion ∈ batch.pending, insertion.index ≤ target.length := by
  intro insertion member
  apply Nat.le_of_not_lt
  intro beyond
  obtain ⟨largest, -, refused⟩ := commit_of_not_fits member beyond
  rw [refused] at accepted
  cases accepted

private theorem ordered_within_of_split {batch : Batch α} {target : List α}
    (fits : ∀ insertion ∈ batch.pending, insertion.index ≤ target.length)
    {done later : List (Insertion α)} (split : batch.sorted.pending = done ++ later) :
    Ordered done ∧ ∀ insertion ∈ done, insertion.index ≤ target.length := by
  have ordered := batch.sorted_ordered
  rw [split] at ordered
  refine ⟨(List.pairwise_append.mp ordered).1, fun insertion member => fits insertion ?_⟩
  rw [← batch.sorted_perm.mem_iff, split]
  exact List.mem_append_left later member

/-- **The merge runs safely.** The target of an accepted batch becomes the result of the merge of
the sorted insertions. Whenever the merge comes to an insertion, no more of the target is used
than the position says, and the rest has as many elements as are to be taken. After any
number of insertions, the target is split into what is used and the rest; as many elements are
merged as are used and inserted; and the old elements among them are exactly the used ones, in
their order. -/
theorem merge_runs_safely (batch : Batch α) (target : List α) (count : Nat)
    (accepted : (batch.commit target).outcome = .ok count) :
    (batch.commit target).target = (Merge.run target batch.sorted.pending).result ∧
      (∀ (done : List (Insertion α)) (insertion : Insertion α) (later : List (Insertion α)),
        batch.sorted.pending = done ++ insertion :: later →
        let merge := Merge.run target done
        merge.consumed ≤ insertion.index ∧
          (merge.rest.take (insertion.index - merge.consumed)).length =
            insertion.index - merge.consumed) ∧
      ∀ done later : List (Insertion α), batch.sorted.pending = done ++ later →
        let merge := Merge.run target done
        merge.consumed ≤ target.length ∧ merge.rest = target.drop merge.consumed ∧
          merge.merged.length = merge.consumed + done.length ∧
          (Merge.marked target done).map (Sum.elim id id) = merge ∧
          (Merge.marked target done).merged.filterMap Sum.getLeft? =
            target.take merge.consumed := by
  have fits := fits_of_ok accepted
  refine ⟨?_, ?_, ?_⟩
  · rw [commit_of_fits fits, merge_sorted_result fits]
  · intro done insertion later split
    rw [List.append_cons] at split
    obtain ⟨ordered, within⟩ := ordered_within_of_split fits split
    exact Merge.run_ready ordered within
  · intro done later split
    obtain ⟨ordered, within⟩ := ordered_within_of_split fits split
    have underway := Merge.run_underway ordered within
    exact ⟨underway.consumed_le, underway.rest_eq, underway.length_merged,
      Merge.unmarked_marked target done, Merge.originals_marked ordered within⟩

/-- Before the last insertion of a batch with a tie: two elements are used, one is to be taken. -/
theorem merge_runs_safely_tie :
    let batch : Batch Char := ⟨[⟨2, 'a'⟩, ⟨3, 'e'⟩, ⟨0, 'f'⟩, ⟨2, 'b'⟩]⟩
    let target := ['x', 'y', 'z']
    let done : List (Insertion Char) := [⟨0, 'f'⟩, ⟨2, 'a'⟩, ⟨2, 'b'⟩]
    let merge := Merge.run target done
    (batch.commit target).outcome = .ok 4 ∧ batch.sorted.pending = done ++ ⟨3, 'e'⟩ :: [] ∧
      (merge.consumed ≤ 3 ∧
        (merge.rest.take (3 - merge.consumed)).length = 3 - merge.consumed) ∧
      merge.merged.length = 2 + 3 ∧
      (Merge.marked target done).merged.filterMap Sum.getLeft? = ['x', 'y'] := by
  intro batch target done merge
  have accepted : (batch.commit target).outcome = .ok 4 :=
    congrArg Committed.outcome (commit_of_fits (by decide))
  have split : batch.sorted.pending = done ++ ⟨3, 'e'⟩ :: [] := by
    simp [batch, done, sorted, List.mergeSort]
  obtain ⟨-, ready, after⟩ := merge_runs_safely batch target 4 accepted
  obtain ⟨-, -, counted, -, originals⟩ := after done [⟨3, 'e'⟩] split
  exact ⟨accepted, split, ready done ⟨3, 'e'⟩ [] split, counted, originals⟩

end Batch

end BackendIR
