import BackendIR.Proofs.Batch.Commit

/-!
# Splitting a batch

Committing two lists of insertions as one batch is committing the first and then
the second, once the second is told where its positions have gone
(`BackendIR.Batch.commit_split`). A position moves behind everything that was
inserted before it or at it: the insertions of the first list at the same position
count too, because in the one batch they stand in front.
-/

namespace BackendIR

variable {α : Type}

namespace Insertion

/-- The insertion with its position as it is after `earlier` are committed. -/
def shiftedBy (earlier : List (Insertion α)) (insertion : Insertion α) : Insertion α :=
  { insertion with
    index := insertion.index + earlier.countP fun other => other.index ≤ insertion.index }

private theorem countP_index_le_succ (insertions : List (Insertion α)) (position : Nat) :
    insertions.countP (fun insertion => insertion.index ≤ position + 1) =
      insertions.countP (fun insertion => insertion.index ≤ position) +
        (gap insertions (position + 1)).length := by
  rw [gap, List.length_map, group, ← List.countP_eq_length_filter]
  induction insertions with
  | nil => rfl
  | cons insertion rest ih =>
      simp only [List.countP_cons, ih, decide_eq_true_eq]
      split_ifs <;> omega

/-- A gap lands behind everything that is inserted up to its position. -/
theorem landing_gap (insertions : List (Insertion α)) (position : Nat) :
    landing (gap insertions) position =
      position + insertions.countP fun insertion => insertion.index ≤ position := by
  induction position with
  | zero =>
      simp only [landing, gap, List.length_map, group, ← List.countP_eq_length_filter,
        Nat.le_zero, Nat.zero_add]
  | succ position ih =>
      rw [landing, ih, countP_index_le_succ]
      omega

private theorem gap_map_shiftedBy (earlier insertions : List (Insertion α)) (place : Nat) :
    gap (insertions.map (shiftedBy earlier)) place =
      (insertions.filter fun insertion =>
        landing (gap earlier) insertion.index = place).map element := by
  rw [gap, group, List.filter_map, List.map_map]
  simp only [landing_gap]
  rfl

/-- A position within the target is shifted to one within the filled target. -/
theorem shiftedBy_index_le {earlier : List (Insertion α)} {target : List α}
    {insertion : Insertion α} (within : insertion.index ≤ target.length) :
    (shiftedBy earlier insertion).index ≤ (interleave (gap earlier) target).length := by
  rw [length_interleave, shiftedBy, ← landing_gap]
  exact (landing_strictMono (gap earlier)).monotone within

/-- Filling the gaps of two lists at once is filling those of the first and then
those of the second, shifted by the first. -/
theorem interleave_gap_append (first second : List (Insertion α)) (target : List α) :
    interleave (gap (second.map (shiftedBy first))) (interleave (gap first) target) =
      interleave (gap (first ++ second)) target := by
  have landed : ∀ position,
      gap (second.map (shiftedBy first)) (landing (gap first) position) = gap second position := by
    intro position
    rw [gap_map_shiftedBy]
    simp only [(landing_strictMono (gap first)).injective.eq_iff]
    rfl
  have elsewhere : ∀ place, (∀ position, landing (gap first) position ≠ place) →
      gap (second.map (shiftedBy first)) place = [] := by
    intro place missed
    rw [gap_map_shiftedBy, List.map_eq_nil_iff, List.filter_eq_nil_iff]
    intro insertion _
    rw [decide_eq_true_eq]
    exact missed insertion.index
  rw [interleave_interleave landed elsewhere]
  exact interleave_congr fun position _ => (gap_append first second position).symm

end Insertion

namespace Batch

open Insertion

private theorem foldl_add (insertions : List (Insertion α)) (batch : Batch α) :
    insertions.foldl add batch = ⟨batch.pending ++ insertions⟩ := by
  induction insertions generalizing batch with
  | nil => rw [List.foldl_nil, List.append_nil]
  | cons insertion rest ih =>
      rw [List.foldl_cons, ih, add, List.append_assoc, List.singleton_append]

private theorem foldl_add_empty (insertions : List (Insertion α)) :
    insertions.foldl add empty = ⟨insertions⟩ :=
  foldl_add insertions empty

/-- **A batch can be split.** Where every position lies within the target, adding
`first` and then `second` to one batch gives the target that committing `first`
alone and then `second`, shifted by `first`, gives. Both of these commits succeed,
and their counts add up to the count of the one batch. -/
theorem commit_split (target : List α) (first second : List (Insertion α))
    (firstFits : ∀ insertion ∈ first, insertion.index ≤ target.length)
    (secondFits : ∀ insertion ∈ second, insertion.index ≤ target.length) :
    ∃ middle final,
      (first.foldl add empty).commit target = ⟨.ok first.length, middle, empty⟩ ∧
      ((second.map (shiftedBy first)).foldl add empty).commit middle =
        ⟨.ok second.length, final, empty⟩ ∧
      ((first ++ second).foldl add empty).commit target =
        ⟨.ok (first.length + second.length), final, empty⟩ := by
  have bothFit : ∀ insertion ∈ first ++ second, insertion.index ≤ target.length := by
    intro insertion member
    rcases List.mem_append.mp member with early | late
    · exact firstFits insertion early
    · exact secondFits insertion late
  have shiftedFits : ∀ insertion ∈ second.map (shiftedBy first),
      insertion.index ≤ (interleave (gap first) target).length := by
    intro insertion member
    obtain ⟨original, originalMember, rfl⟩ := List.mem_map.mp member
    exact shiftedBy_index_le (secondFits original originalMember)
  refine ⟨interleave (gap first) target, interleave (gap (first ++ second)) target, ?_, ?_, ?_⟩
  · rw [foldl_add_empty]
    exact commit_of_fits firstFits
  · rw [foldl_add_empty, commit_of_fits shiftedFits, interleave_gap_append, List.length_map]
  · rw [foldl_add_empty, commit_of_fits bothFit, List.length_append]

/-- Insertions at one position keep their order when they are split over two batches: what the
second list puts at a position lands behind what the first one put there. -/
theorem commit_split_ties :
    let first : List (Insertion Char) := [⟨1, 'a'⟩, ⟨0, 'b'⟩, ⟨1, 'c'⟩]
    let second : List (Insertion Char) := [⟨2, 'p'⟩, ⟨1, 'q'⟩, ⟨0, 'r'⟩]
    let middle := ['b', 'x', 'a', 'c', 'y']
    let final := ['b', 'r', 'x', 'a', 'c', 'q', 'y', 'p']
    (∀ insertion ∈ first, insertion.index ≤ ['x', 'y'].length) ∧
      (∀ insertion ∈ second, insertion.index ≤ ['x', 'y'].length) ∧
      second.map (shiftedBy first) = [⟨5, 'p'⟩, ⟨4, 'q'⟩, ⟨1, 'r'⟩] ∧
      (first.foldl add empty).commit ['x', 'y'] = ⟨.ok 3, middle, empty⟩ ∧
      ((second.map (shiftedBy first)).foldl add empty).commit middle = ⟨.ok 3, final, empty⟩ ∧
      ((first ++ second).foldl add empty).commit ['x', 'y'] = ⟨.ok 6, final, empty⟩ := by
  intro first second middle final
  have firstFits : ∀ insertion ∈ first, insertion.index ≤ ['x', 'y'].length := by decide
  have secondFits : ∀ insertion ∈ second, insertion.index ≤ ['x', 'y'].length := by decide
  have bothFit : ∀ insertion ∈ first ++ second, insertion.index ≤ ['x', 'y'].length := by decide
  obtain ⟨between, last, before, after, together⟩ :=
    commit_split ['x', 'y'] first second firstFits secondFits
  obtain rfl : between = middle :=
    congrArg Committed.target (before.symm.trans (commit_of_fits firstFits))
  obtain rfl : last = final :=
    congrArg Committed.target (together.symm.trans (commit_of_fits bothFit))
  exact ⟨firstFits, secondFits, by decide, before, after, together⟩

end Batch

end BackendIR
