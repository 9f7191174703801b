import BackendIR.Proofs.Batch.Order
import Mathlib.Order.Monotone.Basic
import Mathlib.Data.List.Basic
import Mathlib.Data.List.Induction

/-!
# Interleaving gaps with a sequence

A sequence of `n` elements has `n + 1` gaps: one before each element and one
behind the last. `BackendIR.interleave` fills every gap with a list. It grows at
its end (`BackendIR.interleave_concat`), and a stretch whose inner gaps are empty
is passed through (`BackendIR.interleave_append_cons`). Filling the gaps of a
sequence that was filled before is filling the original gaps twice
(`BackendIR.interleave_interleave`), where `BackendIR.landing` says which gap of the
filled sequence continues a gap of the original one.
-/

namespace BackendIR

variable {α : Type}

/-- The target with every gap filled: for each position in order the filling of
its gap, then the element of the target at that position, if there is one. -/
def interleave (filling : Nat → List α) (target : List α) : List α :=
  (List.range (target.length + 1)).flatMap fun position =>
    filling position ++ target[position]?.toList

@[simp] theorem interleave_nil (filling : Nat → List α) : interleave filling [] = filling 0 := by
  simp [interleave]

/-- A further element stands behind everything, and a last gap follows it. -/
theorem interleave_concat (filling : Nat → List α) (target : List α) (element : α) :
    interleave filling (target ++ [element]) =
      interleave filling target ++ element :: filling (target.length + 1) := by
  have earlier : (List.range target.length).flatMap (fun position =>
        filling position ++ (target ++ [element])[position]?.toList) =
      (List.range target.length).flatMap fun position =>
        filling position ++ target[position]?.toList := by
    apply List.flatMap_congr
    intro position member
    rw [List.getElem?_append_left (List.mem_range.mp member)]
  simp only [interleave, List.length_append, List.length_singleton, List.range_succ,
    List.flatMap_append, List.flatMap_singleton, earlier]
  simp

/-- Only the fillings of gaps that the target has matter. -/
theorem interleave_congr {first second : Nat → List α} {target : List α}
    (agree : ∀ position ≤ target.length, first position = second position) :
    interleave first target = interleave second target := by
  apply List.flatMap_congr
  intro position member
  rw [agree position (Nat.lt_succ_iff.mp (List.mem_range.mp member))]

/-- What fills a gap stands in the result in its order. -/
theorem filling_sublist_interleave (filling : Nat → List α) {target : List α} {position : Nat}
    (bound : position ≤ target.length) :
    (filling position).Sublist (interleave filling target) := by
  refine (List.sublist_append_left _ target[position]?.toList).trans ?_
  rw [interleave, List.flatMap_def]
  apply List.sublist_flatten_of_mem
  exact List.mem_map.mpr ⟨position, List.mem_range.mpr (Nat.lt_succ_of_le bound), rfl⟩

/-- To look for things that no filling has is to look for them in the target. -/
theorem filterMap_interleave {β : Type} {pick : α → Option β} {filling : Nat → List α}
    (skipped : ∀ position, (filling position).filterMap pick = []) (target : List α) :
    (interleave filling target).filterMap pick = target.filterMap pick := by
  induction target using List.reverseRecOn with
  | nil => rw [interleave_nil, skipped, List.filterMap_nil]
  | append_singleton target element ih =>
      rw [interleave_concat, List.filterMap_append, ih, List.filterMap_append,
        List.filterMap_cons, List.filterMap_cons, skipped, List.filterMap_nil]

/-- More at the end of the last gap is more at the end of the result. -/
theorem interleave_extend_last {first second : Nat → List α} {target : List α} (extra : List α)
    (agree : ∀ position < target.length, second position = first position)
    (last : second target.length = first target.length ++ extra) :
    interleave second target = interleave first target ++ extra := by
  induction target using List.reverseRecOn with
  | nil => rw [interleave_nil, interleave_nil]; exact last
  | append_singleton target element _ =>
      rw [List.length_append, List.length_singleton] at agree last
      rw [interleave_concat, interleave_concat, last,
        interleave_congr fun position bound => agree position (Nat.lt_succ_of_le bound),
        List.append_assoc, List.cons_append]

/-- A stretch of elements with no filling between them is passed through. -/
theorem interleave_append_cons (filling : Nat → List α) (target : List α) (element : α)
    (stretch : List α)
    (empty : ∀ position, target.length < position →
      position < target.length + 1 + stretch.length → filling position = []) :
    interleave filling (target ++ element :: stretch) =
      interleave filling target ++ element :: stretch ++
        filling (target.length + 1 + stretch.length) := by
  induction stretch using List.reverseRecOn with
  | nil => simpa using interleave_concat filling target element
  | append_singleton stretch last ih =>
      rw [List.length_append, List.length_singleton] at empty ⊢
      have within := ih fun position above below => empty position above (by omega)
      have inner : filling (target.length + 1 + stretch.length) = [] :=
        empty _ (by omega) (by omega)
      rw [← List.cons_append, ← List.append_assoc, interleave_concat, within, inner]
      simp only [List.length_append, List.length_cons, List.append_assoc, List.append_nil,
        List.cons_append, List.nil_append]
      congr 5
      omega

/-- Behind the last gap that is filled, elements are only appended. -/
theorem interleave_append (filling : Nat → List α) (target rest : List α)
    (empty : ∀ position, target.length < position → filling position = []) :
    interleave filling (target ++ rest) = interleave filling target ++ rest := by
  cases rest with
  | nil => rw [List.append_nil, List.append_nil]
  | cons element stretch =>
      rw [interleave_append_cons filling target element stretch fun position above _ =>
        empty position above, empty _ (by omega), List.append_nil]

/-- With every gap before the last one empty, the last filling follows the target. -/
theorem interleave_of_last (filling : Nat → List α) (target : List α)
    (empty : ∀ position < target.length, filling position = []) :
    interleave filling target = target ++ filling target.length := by
  cases target with
  | nil => simp
  | cons element stretch =>
      have passed := interleave_append_cons filling [] element stretch fun position _ below =>
        empty position (by simpa [Nat.add_comm] using below)
      rw [List.nil_append, interleave_nil, empty 0 (by simp)] at passed
      simpa [Nat.add_comm] using passed

/-- The gap of a filled sequence that continues the gap at a position of the
original one: the place at which the position's own filling ends. -/
def landing (filling : Nat → List α) : Nat → Nat
  | 0 => (filling 0).length
  | position + 1 => landing filling position + 1 + (filling (position + 1)).length

/-- Later positions land further back. -/
theorem landing_strictMono (filling : Nat → List α) : StrictMono (landing filling) := by
  apply strictMono_nat_of_lt_succ
  intro position
  rw [landing]
  omega

/-- The end of the target lands at the end of the result. -/
theorem length_interleave (filling : Nat → List α) (target : List α) :
    (interleave filling target).length = landing filling target.length := by
  induction target using List.reverseRecOn with
  | nil => simp [landing]
  | append_singleton target element ih =>
      rw [interleave_concat, List.length_append, ih, List.length_append, List.length_singleton,
        List.length_cons, landing]
      omega

/-- **Filling twice.** If the fillings of the second round stand at the landings
of the gaps they were meant for, then both rounds together put the second filling
of every gap behind the first. -/
theorem interleave_interleave {first second moved : Nat → List α}
    (landed : ∀ position, moved (landing first position) = second position)
    (elsewhere : ∀ place, (∀ position, landing first position ≠ place) → moved place = [])
    (target : List α) :
    interleave moved (interleave first target) =
      interleave (fun position => first position ++ second position) target := by
  induction target using List.reverseRecOn with
  | nil =>
      rw [interleave_nil, interleave_nil, ← landed 0, landing]
      apply interleave_of_last
      intro place below
      apply elsewhere
      intro position same
      have least := (landing_strictMono first).monotone (Nat.zero_le position)
      rw [landing] at least
      omega
  | append_singleton target element ih =>
      -- The places strictly inside the new gap are no landings.
      have inside : ∀ place, (interleave first target).length < place →
          place < (interleave first target).length + 1 + (first (target.length + 1)).length →
          moved place = [] := by
        intro place above below
        rw [length_interleave] at above below
        apply elsewhere
        rintro position rfl
        have after := (landing_strictMono first).lt_iff_lt.mp above
        have before : position < target.length + 1 := (landing_strictMono first).lt_iff_lt.mp below
        omega
      rw [interleave_concat, interleave_concat, interleave_append_cons moved _ element _ inside, ih,
        length_interleave, ← landing, landed, List.append_assoc, List.cons_append]

end BackendIR
