import BackendIR.Proofs.Batch.Interleave
import Mathlib.Order.Bounds.Basic

/-!
# What committing a batch does

A batch that fits its target fills the gaps of the target with the pending
elements of each position (`BackendIR.Batch.commit_fills_gaps`). A batch that does
not fit is refused: the fault names the largest pending position, the target stays
as it is, and the batch stays pending in sorted order
(`BackendIR.Batch.commit_refused`).

The merge is followed step by step: `BackendIR.Merge.Underway` says what holds
after some of the insertions, every further insertion keeps it
(`BackendIR.Merge.Underway.step`), and at the end it is the filled target
(`BackendIR.Merge.Underway.result_eq`).
-/

namespace BackendIR

open Insertion

variable {α : Type}

namespace Merge

/-- The merge after the insertions `done`: the elements that are used are filled
in, the others are left, and no insertion of `done` stands behind the used ones. -/
structure Underway (target : List α) (done : List (Insertion α)) (merge : Merge α) : Prop where
  consumed_le : merge.consumed ≤ target.length
  rest_eq : merge.rest = target.drop merge.consumed
  merged_eq : merge.merged = interleave (gap done) (target.take merge.consumed)
  index_le : ∀ insertion ∈ done, insertion.index ≤ merge.consumed

private theorem start_underway (target : List α) : (start target).Underway target [] where
  consumed_le := Nat.zero_le _
  rest_eq := rfl
  merged_eq := (interleave_nil (gap ([] : List (Insertion α)))).symm
  index_le := fun _ member => absurd member List.not_mem_nil

private theorem Underway.gap_eq_nil {target : List α} {done : List (Insertion α)} {merge : Merge α}
    (underway : merge.Underway target done) {position : Nat} (behind : merge.consumed < position) :
    gap done position = [] := by
  apply Insertion.gap_eq_nil
  intro insertion member same
  have bound := underway.index_le insertion member
  omega

/-- **One step of the merge.** An insertion that does not stand before the used
elements, and not behind the target, is filled in. -/
theorem Underway.step {target : List α} {done : List (Insertion α)} {merge : Merge α}
    (underway : merge.Underway target done) {insertion : Insertion α}
    (forward : merge.consumed ≤ insertion.index) (within : insertion.index ≤ target.length) :
    (merge.step insertion).Underway target (done ++ [insertion]) where
  consumed_le := within
  rest_eq := by
    change merge.rest.drop (insertion.index - merge.consumed) = target.drop insertion.index
    rw [underway.rest_eq, List.drop_drop, Nat.add_sub_cancel' forward]
  merged_eq := by
    have usedLength : (target.take merge.consumed).length = merge.consumed :=
      List.length_take_of_le underway.consumed_le
    have takenLength : (target.take insertion.index).length = insertion.index :=
      List.length_take_of_le within
    have taken : target.take insertion.index = target.take merge.consumed ++
        (target.drop merge.consumed).take (insertion.index - merge.consumed) := by
      rw [← List.take_add, Nat.add_sub_cancel' forward]
    have passed : interleave (gap done) (target.take insertion.index) =
        merge.merged ++ merge.rest.take (insertion.index - merge.consumed) := by
      rw [taken, interleave_append, ← underway.merged_eq, underway.rest_eq]
      intro position behind
      exact underway.gap_eq_nil (usedLength ▸ behind)
    change merge.merged ++ merge.rest.take (insertion.index - merge.consumed) ++
        [insertion.element] = interleave _ (target.take insertion.index)
    rw [← passed]
    refine (interleave_extend_last _ ?_ ?_).symm
    · intro position before
      have other : insertion.index ≠ position := by omega
      rw [gap_append, gap_singleton, if_neg other, List.append_nil]
    · rw [gap_append, gap_singleton, takenLength, if_pos rfl]
  index_le := by
    intro earlier member
    rcases List.mem_append.mp member with before | own
    · exact Nat.le_trans (underway.index_le earlier before) forward
    · exact Nat.le_of_eq (congrArg index (List.mem_singleton.mp own))

/-- Insertions in order, none before the consumed part or behind the target, keep a merge
underway. -/
theorem Underway.foldl {target : List α} {done : List (Insertion α)} {merge : Merge α}
    (underway : merge.Underway target done) {insertions : List (Insertion α)}
    (ordered : Ordered insertions)
    (forward : ∀ insertion ∈ insertions, merge.consumed ≤ insertion.index)
    (within : ∀ insertion ∈ insertions, insertion.index ≤ target.length) :
    (insertions.foldl Merge.step merge).Underway target (done ++ insertions) := by
  induction insertions generalizing merge done with
  | nil => simpa using underway
  | cons insertion rest ih =>
      have stepped := underway.step (forward insertion List.mem_cons_self)
        (within insertion List.mem_cons_self)
      have later := ih stepped (List.pairwise_cons.mp ordered).2
        (List.pairwise_cons.mp ordered).1
        fun other member => within other (List.mem_cons_of_mem insertion member)
      simpa using later

/-- A merge underway gives the target with the gaps filled, once what is left of it is
appended. -/
theorem Underway.result_eq {target : List α} {done : List (Insertion α)} {merge : Merge α}
    (underway : merge.Underway target done) : merge.result = interleave (gap done) target := by
  rw [result, underway.merged_eq, underway.rest_eq, ← interleave_append, List.take_append_drop]
  intro position behind
  rw [List.length_take_of_le underway.consumed_le] at behind
  exact underway.gap_eq_nil behind

/-- A run over insertions that are in order and lie within the target is underway all the way. -/
theorem run_underway {target : List α} {insertions : List (Insertion α)}
    (ordered : Ordered insertions)
    (within : ∀ insertion ∈ insertions, insertion.index ≤ target.length) :
    (run target insertions).Underway target insertions :=
  (start_underway target).foldl ordered (fun _ _ => Nat.zero_le _) within

/-- Merging ordered insertions that fit fills the gaps of the target. -/
theorem run_result {target : List α} {insertions : List (Insertion α)}
    (ordered : Ordered insertions)
    (within : ∀ insertion ∈ insertions, insertion.index ≤ target.length) :
    (run target insertions).result = interleave (gap insertions) target :=
  (run_underway ordered within).result_eq

/-- One step adds one element to the result, and moves nothing else. -/
theorem exists_result_step (merge : Merge α) (insertion : Insertion α) :
    ∃ before after, merge.result = before ++ after ∧
      (merge.step insertion).result = before ++ insertion.element :: after := by
  let count := insertion.index - merge.consumed
  refine ⟨merge.merged ++ merge.rest.take count, merge.rest.drop count, ?_, ?_⟩
  · rw [result, List.append_assoc, List.take_append_drop]
  · change merge.merged ++ merge.rest.take count ++ [insertion.element] ++ merge.rest.drop count = _
    rw [List.append_assoc, List.singleton_append]

/-- Merging adds the elements and loses none, in whatever order the insertions come. -/
theorem foldl_result_perm (insertions : List (Insertion α)) (merge : Merge α) :
    (insertions.foldl step merge).result.Perm (merge.result ++ insertions.map element) := by
  induction insertions generalizing merge with
  | nil => rw [List.map_nil, List.append_nil]; exact .refl _
  | cons insertion rest ih =>
      obtain ⟨before, after, split, stepped⟩ := merge.exists_result_step insertion
      have moved : (before ++ insertion.element :: after).Perm
          (merge.result ++ [insertion.element]) := by
        rw [split]
        exact List.perm_middle.trans (List.perm_append_singleton _ _).symm
      refine (ih (merge.step insertion)).trans ?_
      rw [stepped, List.map_cons, List.append_cons merge.result]
      exact moved.append_right _

/-- Merging never reorders what is already in the result. -/
theorem result_sublist_foldl (insertions : List (Insertion α)) (merge : Merge α) :
    merge.result.Sublist (insertions.foldl step merge).result := by
  induction insertions generalizing merge with
  | nil => exact .refl _
  | cons insertion rest ih =>
      obtain ⟨before, after, split, stepped⟩ := merge.exists_result_step insertion
      refine List.Sublist.trans ?_ (ih (merge.step insertion))
      rw [split, stepped]
      exact (List.sublist_cons_self _ _).append_left before

end Merge

namespace Batch

/-- The positions before which something is pending. -/
def positions (batch : Batch α) : Set Nat :=
  {index | ∃ insertion ∈ batch.pending, insertion.index = index}

private theorem reverse_sorted_ordered (batch : Batch α) :
    Ordered batch.sorted.pending.reverse.reverse := by
  rw [List.reverse_reverse]
  exact batch.sorted_ordered

private theorem mem_reverse_sorted {batch : Batch α} {insertion : Insertion α} :
    insertion ∈ batch.sorted.pending.reverse ↔ insertion ∈ batch.pending := by
  rw [List.mem_reverse, batch.sorted_perm.mem_iff]

/-- The last insertion of the sorted batch stands before the largest position. -/
theorem isGreatest_of_reverse_sorted {batch : Batch α} {last : Insertion α}
    {earlier : List (Insertion α)} (reversed : batch.sorted.pending.reverse = last :: earlier) :
    IsGreatest batch.positions last.index := by
  have descending := batch.reverse_sorted_ordered
  rw [reversed, Ordered, List.pairwise_reverse] at descending
  constructor
  · refine ⟨last, ?_, rfl⟩
    rw [← mem_reverse_sorted, reversed]
    exact List.mem_cons_self
  · rintro index ⟨other, member, rfl⟩
    rw [← mem_reverse_sorted, reversed] at member
    rcases List.mem_cons.mp member with rfl | before
    · exact Nat.le_refl _
    · exact (List.pairwise_cons.mp descending).1 other before

/-- The check passes insertions in descending order that all lie within the target. -/
theorem checkBackwards_of_within {length : Nat} {insertions : List (Insertion α)}
    (descending : Ordered insertions.reverse)
    (within : ∀ insertion ∈ insertions, insertion.index ≤ length) :
    checkBackwards length insertions = .ok () := by
  rw [Ordered, List.pairwise_reverse] at descending
  induction insertions with
  | nil => rfl
  | cons last earlier ih =>
      have lastWithin := within last List.mem_cons_self
      have rest := ih (List.pairwise_cons.mp descending).2
        fun insertion member => within insertion (List.mem_cons_of_mem last member)
      cases earlier with
      | nil => rw [checkBackwards, if_neg (Nat.not_lt.mpr lastWithin)]
      | cons previous earlier =>
          have inOrder := (List.pairwise_cons.mp descending).1 previous List.mem_cons_self
          rw [checkBackwards, if_neg (Nat.not_lt.mpr inOrder), if_neg (Nat.not_lt.mpr lastWithin),
            rest]

/-- The check stops at once if the last insertion lies behind the target. -/
theorem checkBackwards_of_beyond {length : Nat} {last : Insertion α}
    {earlier : List (Insertion α)} (descending : Ordered (last :: earlier).reverse)
    (beyond : length < last.index) :
    checkBackwards length (last :: earlier) = .error (.outOfBounds last.index length) := by
  rw [Ordered, List.pairwise_reverse] at descending
  cases earlier with
  | nil => rw [checkBackwards, if_pos beyond]
  | cons previous earlier =>
      have inOrder := (List.pairwise_cons.mp descending).1 previous List.mem_cons_self
      rw [checkBackwards, if_neg (Nat.not_lt.mpr inOrder), if_pos beyond]

/-- Merging a sorted batch fills the gaps of the target as they were before the sort. -/
theorem merge_sorted_result {batch : Batch α} {target : List α}
    (fits : ∀ insertion ∈ batch.pending, insertion.index ≤ target.length) :
    (Merge.run target batch.sorted.pending).result = interleave (gap batch.pending) target := by
  rw [Merge.run_result batch.sorted_ordered fun insertion member =>
    fits insertion (batch.sorted_perm.mem_iff.mp member)]
  exact congrArg (interleave · target) (funext batch.gap_sorted)

/-- A batch that fits its target is committed, and nothing stays pending. -/
theorem commit_of_fits {batch : Batch α} {target : List α}
    (fits : ∀ insertion ∈ batch.pending, insertion.index ≤ target.length) :
    batch.commit target =
      { outcome := .ok batch.pending.length
        target := interleave (gap batch.pending) target
        batch := empty } := by
  have checked : checkBackwards target.length batch.sorted.pending.reverse = .ok () := by
    apply checkBackwards_of_within batch.reverse_sorted_ordered
    intro insertion member
    exact fits insertion (mem_reverse_sorted.mp member)
  rw [commit, checked, ← merge_sorted_result fits]
  simp only [size, batch.sorted_perm.length_eq]

/-- A batch that reaches behind its target is refused for its largest position. -/
theorem commit_of_not_fits {batch : Batch α} {target : List α} {insertion : Insertion α}
    (member : insertion ∈ batch.pending) (beyond : target.length < insertion.index) :
    ∃ largest, IsGreatest batch.positions largest ∧
      batch.commit target =
        { outcome := .error (.outOfBounds largest target.length)
          target := target
          batch := batch.sorted } := by
  have pending : insertion ∈ batch.sorted.pending.reverse := mem_reverse_sorted.mpr member
  have descending := batch.reverse_sorted_ordered
  cases reversed : batch.sorted.pending.reverse with
  | nil =>
      rw [reversed] at pending
      exact absurd pending List.not_mem_nil
  | cons last earlier =>
      rw [reversed] at descending
      have greatest := isGreatest_of_reverse_sorted reversed
      have lastBeyond : target.length < last.index :=
        Nat.lt_of_lt_of_le beyond (greatest.2 ⟨insertion, member, rfl⟩)
      refine ⟨last.index, greatest, ?_⟩
      rw [commit, reversed, checkBackwards_of_beyond descending lastBeyond]

/-- A refusal comes from a position behind the target, names the largest one, and leaves the
target as it was and the batch sorted. -/
theorem commit_of_error {batch : Batch α} {target : List α} {fault : Fault}
    (refused : (batch.commit target).outcome = .error fault) :
    ∃ insertion ∈ batch.pending, target.length < insertion.index ∧
      ∃ largest, IsGreatest batch.positions largest ∧
        batch.commit target =
          { outcome := .error (.outOfBounds largest target.length)
            target := target
            batch := batch.sorted } := by
  by_cases overhang : ∃ insertion ∈ batch.pending, target.length < insertion.index
  · obtain ⟨insertion, member, beyond⟩ := overhang
    exact ⟨insertion, member, beyond, commit_of_not_fits member beyond⟩
  · have fits : ∀ insertion ∈ batch.pending, insertion.index ≤ target.length :=
      fun insertion member => Nat.not_lt.mp fun beyond => overhang ⟨insertion, member, beyond⟩
    rw [commit_of_fits fits] at refused
    cases refused

/-- **Committing fills the gaps.** A batch whose positions all lie within the
target is committed whole: the gap at each position takes the elements pending
there in the order in which they were added. So the new target holds what the old
one and the batch held, no more and no less, the old elements in their order, and
the elements of each gap in theirs. -/
theorem commit_fills_gaps (batch : Batch α) (target : List α)
    (fits : ∀ insertion ∈ batch.pending, insertion.index ≤ target.length) :
    batch.commit target =
        { outcome := .ok batch.pending.length
          target := interleave (gap batch.pending) target
          batch := empty } ∧
      (batch.commit target).target.Perm (target ++ batch.pending.map element) ∧
      target.Sublist (batch.commit target).target ∧
      ∀ position, (gap batch.pending position).Sublist (batch.commit target).target := by
  rw [commit_of_fits fits]
  refine ⟨rfl, ?_, ?_, ?_⟩
  · rw [← merge_sorted_result fits]
    refine (Merge.foldl_result_perm _ _).trans ?_
    exact (batch.sorted_perm.map element).append_left target
  · rw [← merge_sorted_result fits]
    exact Merge.result_sublist_foldl batch.sorted.pending (Merge.start target)
  · intro position
    by_cases bound : position ≤ target.length
    · exact filling_sublist_interleave _ bound
    · have unused : gap batch.pending position = [] := by
        apply gap_eq_nil
        rintro insertion member rfl
        exact bound (fits insertion member)
      rw [unused]
      exact List.nil_sublist _

/-- Three insertions at one position fill the gap there in the order in which they were added,
and an insertion at the length of the target ends up last. -/
theorem commit_fills_gaps_ties :
    let batch : Batch Char := ⟨[⟨2, 'a'⟩, ⟨0, 'f'⟩, ⟨2, 'b'⟩, ⟨3, 'e'⟩, ⟨2, 'c'⟩]⟩
    (∀ insertion ∈ batch.pending, insertion.index ≤ ['x', 'y', 'z'].length) ∧
      batch.commit ['x', 'y', 'z'] =
        ⟨.ok 5, ['f', 'x', 'y', 'a', 'b', 'c', 'z', 'e'], empty⟩ :=
  ⟨by decide, (commit_fills_gaps _ _ (by decide)).1⟩

/-- **A refused batch.** A commit fails exactly when some position lies behind the
target. The fault is then always that the largest pending position is out of
bounds, never one of order; the target is as before, and the batch is pending as
before but stably sorted. -/
theorem commit_refused (batch : Batch α) (target : List α) :
    ((∃ fault, (batch.commit target).outcome = .error fault) ↔
        ∃ insertion ∈ batch.pending, target.length < insertion.index) ∧
      (∀ index previous, (batch.commit target).outcome ≠ .error (.outOfOrder index previous)) ∧
      ∀ fault, (batch.commit target).outcome = .error fault →
        (∃ largest, IsGreatest batch.positions largest ∧
          fault = .outOfBounds largest target.length) ∧
        (batch.commit target).target = target ∧
        StablySorted batch.pending (batch.commit target).batch.pending := by
  refine ⟨⟨?_, ?_⟩, ?_, ?_⟩
  · rintro ⟨fault, failed⟩
    obtain ⟨insertion, member, beyond, _⟩ := commit_of_error failed
    exact ⟨insertion, member, beyond⟩
  · rintro ⟨insertion, member, beyond⟩
    obtain ⟨largest, _, refused⟩ := commit_of_not_fits member beyond
    exact ⟨_, congrArg Committed.outcome refused⟩
  · intro index previous failed
    obtain ⟨_, _, _, largest, _, refused⟩ := commit_of_error failed
    rw [refused] at failed
    cases failed
  · intro fault failed
    obtain ⟨_, _, _, largest, greatest, refused⟩ := commit_of_error failed
    rw [refused] at failed ⊢
    exact ⟨⟨largest, greatest, (Except.error.inj failed).symm⟩, rfl, batch.sorted_stablySorted⟩

/-- A position behind the end of a short target refuses the whole batch, those insertions too that
would fit. -/
theorem commit_refused_short_target :
    let batch : Batch Char := ⟨[⟨3, 'z'⟩, ⟨1, 'x'⟩, ⟨1, 'y'⟩]⟩
    (batch.commit ['a']).outcome = .error (.outOfBounds 3 1) ∧
      (batch.commit ['a']).target = ['a'] ∧
      StablySorted batch.pending (batch.commit ['a']).batch.pending := by
  intro batch
  obtain ⟨fails, _, refusal⟩ := commit_refused batch ['a']
  have member : (⟨3, 'z'⟩ : Insertion Char) ∈ batch.pending := List.mem_cons_self
  obtain ⟨fault, failed⟩ := fails.mpr ⟨_, member, by decide⟩
  obtain ⟨⟨largest, greatest, rfl⟩, kept, sorted⟩ := refusal fault failed
  have three : IsGreatest batch.positions 3 := by
    refine ⟨⟨_, member, rfl⟩, ?_⟩
    rintro index ⟨insertion, pending, rfl⟩
    have bounded : ∀ other ∈ batch.pending, other.index ≤ 3 := by decide
    exact bounded insertion pending
  exact ⟨greatest.unique three ▸ failed, kept, sorted⟩

end Batch

end BackendIR
