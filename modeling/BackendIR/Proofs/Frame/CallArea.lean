import Mathlib.Order.Bounds.Basic
import BackendIR.Proofs.Frame.SlotHistory

/-!
# The area for call arguments

A size that is asked for is rounded up to the least multiple of the stack alignment that holds it
(`BackendIR.Procedure.alignToStack?_eq_some_iff`). For the fifteen largest words this is no word any
more, and the request is refused (`BackendIR.Procedure.alignToStack?_eq_none_iff`). The area is the
greatest of the rounded sizes (`BackendIR.Procedure.isGreatest_areaAfterAll`), and that says nothing
about the order of the requests, nor about those that were refused.
-/

namespace BackendIR

namespace Procedure

variable {procedure : Procedure} {size aligned area : UInt32} {fault : Fault}

/-- Rounding up gives the least multiple of sixteen that is not smaller. -/
theorem isLeast_aligned (size : Nat) :
    IsLeast {bytes | 16 ∣ bytes ∧ size ≤ bytes} ((size + 15) / 16 * 16) := by
  refine ⟨⟨Nat.dvd_mul_left 16 _, by omega⟩, ?_⟩
  rintro bytes ⟨⟨count, rfl⟩, holds⟩
  omega

private theorem alignToStack?_eq (size : UInt32) :
    alignToStack? size =
      if (size.toNat + 15) / 16 * 16 < UInt32.size
      then some (UInt32.ofNat ((size.toNat + 15) / 16 * 16)) else none := rfl

/-- Rounding overflows exactly for the sizes above the largest multiple of sixteen that is a
word. -/
theorem alignToStack?_eq_none_iff :
    alignToStack? size = none ↔ UInt32.size - 16 < size.toNat := by
  have word : UInt32.size = 4294967296 := rfl
  rw [alignToStack?_eq]
  by_cases fits : (size.toNat + 15) / 16 * 16 < UInt32.size
  · rw [if_pos fits]
    exact iff_of_false (Option.some_ne_none _) (by omega)
  · rw [if_neg fits]
    exact iff_of_true rfl (by omega)

/-- Rounded sizes that are words do not wrap. -/
theorem alignToStack?_eq_some_iff :
    alignToStack? size = some aligned ↔
      IsLeast {bytes | 16 ∣ bytes ∧ size.toNat ≤ bytes} aligned.toNat := by
  have least := isLeast_aligned size.toNat
  rw [alignToStack?_eq]
  by_cases fits : (size.toNat + 15) / 16 * 16 < UInt32.size
  · rw [if_pos fits, Option.some_inj, ← UInt32.toNat_inj, UInt32.toNat_ofNat_of_lt' fits]
    exact ⟨fun same => same ▸ least, fun known => least.unique known⟩
  · rw [if_neg fits]
    refine iff_of_false (Option.some_ne_none aligned).symm fun known => fits ?_
    rw [least.unique known]
    exact aligned.toNat_lt_size

/-- An area is refused exactly if its size does not fit after rounding, and the fault names the
size that was asked for. -/
theorem growCallArea_eq_error_iff :
    procedure.growCallArea size = .error fault ↔
      fault = .areaTooLarge size ∧ UInt32.size - 16 < size.toNat := by
  rw [← alignToStack?_eq_none_iff, growCallArea]
  cases alignToStack? size with
  | none => simp [eq_comm]
  | some aligned => simp

/-! ### One request after another -/

/-- The area after a request. A request that is refused changes nothing. -/
def areaAfter (area size : UInt32) : UInt32 :=
  match alignToStack? size with
  | some aligned => max area aligned
  | none => area

/-- The area after several requests in order, if there was none before. -/
def areaAfterAll (sizes : List UInt32) : UInt32 :=
  sizes.foldl areaAfter 0

/-- The areas that are asked for: none at all, and for each size that is not refused the least
multiple of sixteen that holds it. -/
def askedAreas (sizes : List UInt32) : Set Nat :=
  {bytes | bytes = 0 ∨ ∃ size ∈ sizes, size.toNat ≤ UInt32.size - 16 ∧
    IsLeast {multiple | 16 ∣ multiple ∧ size.toNat ≤ multiple} bytes}

/-- A greatest area stays the greatest while the rounded sizes are taken into account. -/
theorem isGreatest_foldl {areas : List UInt32} (known : IsGreatest {area | area ∈ areas} area)
    (sizes : List UInt32) :
    IsGreatest {area | area ∈ areas ++ sizes.filterMap alignToStack?}
      (sizes.foldl areaAfter area) := by
  induction sizes generalizing areas area with
  | nil => simpa using known
  | cons size rest ih =>
      rw [List.foldl_cons, areaAfter]
      cases rounded : alignToStack? size with
      | none =>
          rw [List.filterMap_cons_none rounded]
          exact ih known
      | some aligned =>
          rw [List.filterMap_cons_some rounded, ← List.singleton_append, ← List.append_assoc]
          exact ih (isGreatest_concat known aligned)

/-- The areas that are asked for are the rounded sizes, and the empty one. -/
theorem mem_askedAreas_iff {sizes : List UInt32} {bytes : Nat} :
    bytes ∈ askedAreas sizes ↔
      ∃ area ∈ 0 :: sizes.filterMap alignToStack?, area.toNat = bytes := by
  constructor
  · rintro (rfl | ⟨size, asked, fits, least⟩)
    · exact ⟨0, .head _, rfl⟩
    · cases rounded : alignToStack? size with
      | none => exact absurd (alignToStack?_eq_none_iff.mp rounded) (Nat.not_lt.mpr fits)
      | some aligned =>
          refine ⟨aligned, .tail _ (List.mem_filterMap.mpr ⟨size, asked, rounded⟩), ?_⟩
          exact (alignToStack?_eq_some_iff.mp rounded).unique least
  · rintro ⟨area, listed, rfl⟩
    rcases List.mem_cons.mp listed with rfl | listed
    · exact .inl rfl
    · obtain ⟨size, asked, rounded⟩ := List.mem_filterMap.mp listed
      refine .inr ⟨size, asked, ?_, alignToStack?_eq_some_iff.mp rounded⟩
      refine Nat.not_lt.mp fun large => ?_
      cases rounded.symm.trans (alignToStack?_eq_none_iff.mpr large)

/-- **The area is the greatest one asked for.** After any sizes, in any order, the area is the
largest of the rounded sizes that were not refused, or empty without one. -/
theorem isGreatest_areaAfterAll (sizes : List UInt32) :
    IsGreatest (askedAreas sizes) (areaAfterAll sizes).toNat := by
  obtain ⟨member, bound⟩ := isGreatest_foldl (isGreatest_single 0) sizes
  refine ⟨mem_askedAreas_iff.mpr ⟨_, member, rfl⟩, fun bytes asked => ?_⟩
  obtain ⟨area, listed, rfl⟩ := mem_askedAreas_iff.mp asked
  exact UInt32.le_iff_toNat_le.mp (bound listed)

/-- More sizes ask for more areas. -/
theorem askedAreas_mono {few many : List UInt32} (included : few ⊆ many) :
    askedAreas few ⊆ askedAreas many := by
  rintro bytes (zero | ⟨size, asked, least⟩)
  · exact .inl zero
  · exact .inr ⟨size, included asked, least⟩

/-- Every area that is asked for is a multiple of sixteen. -/
theorem dvd_of_mem_askedAreas {sizes : List UInt32} {bytes : Nat}
    (asked : bytes ∈ askedAreas sizes) : 16 ∣ bytes := by
  rcases asked with rfl | ⟨size, -, -, least⟩
  · exact Nat.dvd_zero 16
  · exact least.1.1

/-- A size that is not refused asks for an area that holds it. -/
theorem exists_askedArea {sizes : List UInt32} (asked : size ∈ sizes)
    (fits : size.toNat ≤ UInt32.size - 16) : ∃ bytes ∈ askedAreas sizes, size.toNat ≤ bytes := by
  have least := isLeast_aligned size.toNat
  exact ⟨_, .inr ⟨size, asked, fits, least⟩, least.1.2⟩

/-- The order of the sizes makes no difference to the area. -/
theorem areaAfterAll_perm {first second : List UInt32} (same : first.Perm second) :
    areaAfterAll first = areaAfterAll second := by
  have asked : askedAreas first = askedAreas second :=
    (askedAreas_mono same.subset).antisymm (askedAreas_mono same.symm.subset)
  refine UInt32.toNat_inj.mp ((isGreatest_areaAfterAll first).unique ?_)
  rw [asked]
  exact isGreatest_areaAfterAll second

end Procedure

open Procedure

/-! ### Sessions -/

/-- The script that asks for areas of some sizes. -/
def areaScript (sizes : List UInt32) : List Step :=
  sizes.map fun size => .perform (.growCallArea size)

/-- The command answers with the size of the area, or gives the fault and changes nothing. -/
theorem Command.run_growCallArea (session : Session) (size : UInt32) :
    (Command.growCallArea size).run.run.run session =
      match session.procedure.growCallArea size with
      | .ok grown => (.ok (.number grown.callArea.toNat), { session with procedure := grown })
      | .error fault => (.error (.fault fault), session) := by
  rw [Command.run, Edit.run_bind_of_ok (Edit.run_procedure session)]
  cases session.procedure.growCallArea size <;> rfl

/-- The command is refused exactly for sizes that do not fit after rounding. -/
theorem Command.growCallArea_refused_iff {session : Session} {size : UInt32} {refusal : Refusal} :
    ((Command.growCallArea size).run.run.run session).1 = .error refusal ↔
      refusal = .fault (.areaTooLarge size) ∧ UInt32.size - 16 < size.toNat := by
  rw [Command.run_growCallArea]
  cases grown : session.procedure.growCallArea size with
  | error fault =>
      obtain ⟨rfl, large⟩ := growCallArea_eq_error_iff.mp grown
      simp [large, eq_comm]
  | ok procedure =>
      have granted : ¬ UInt32.size - 16 < size.toNat := by
        intro large
        cases grown.symm.trans (growCallArea_eq_error_iff.mpr ⟨rfl, large⟩)
      simp [granted]

namespace Session

private theorem run_growCallArea_snd (session : Session) (size : UInt32) :
    ((Command.growCallArea size).run.run.run session).2 =
      { session with
        procedure :=
          { session.procedure with
            callArea := areaAfter session.procedure.callArea size } } := by
  rw [Command.run_growCallArea, growCallArea, areaAfter]
  cases alignToStack? size <;> rfl

/-- **Requests for areas.** Nothing but the area changes. -/
theorem play_areaScript (session : Session) (sizes : List UInt32) :
    (session.play (areaScript sizes)).2 =
      { session with
        procedure :=
          { session.procedure with
            callArea := sizes.foldl areaAfter session.procedure.callArea } } := by
  induction sizes generalizing session with
  | nil => rfl
  | cons size rest ih =>
      change (((Command.growCallArea size).run.run.run session).2.play (areaScript rest)).2 = _
      rw [run_growCallArea_snd, ih]
      rfl

end Session

namespace Procedure

/-- **The call area covers all requests.** A request is refused exactly if its size is one of the
fifteen largest words, and then nothing changes. After any requests to a new procedure, the area is
the greatest of the sizes that were granted, each rounded up to a multiple of sixteen; so it is
such a multiple, further requests never make it smaller, it holds every size that was granted, and
the order of the requests does not matter. -/
theorem call_area_covers_requests (table : ConventionTable) (sizes : List UInt32) :
    let run (sizes : List UInt32) : Session := ((Session.start table).play (areaScript sizes)).2
    let area (sizes : List UInt32) : Nat := (run sizes).procedure.callArea.toNat
    (∀ (size : UInt32) (refusal : Refusal),
        ((Command.growCallArea size).run.run.run (run sizes)).1 = .error refusal ↔
          refusal = .fault (.areaTooLarge size) ∧ UInt32.size - 16 < size.toNat) ∧
      (∀ size : UInt32, UInt32.size - 16 < size.toNat →
        ((Command.growCallArea size).run.run.run (run sizes)).2 = run sizes) ∧
      IsGreatest (askedAreas sizes) (area sizes) ∧
      16 ∣ area sizes ∧
      (∀ more : List UInt32, area sizes ≤ area (sizes ++ more)) ∧
      (∀ size ∈ sizes, size.toNat ≤ UInt32.size - 16 → size.toNat ≤ area sizes) ∧
      ∀ others : List UInt32, others.Perm sizes → run others = run sizes := by
  intro run area
  have played (sizes : List UInt32) : run sizes =
      { Session.start table with
        procedure := { Procedure.empty with callArea := areaAfterAll sizes } } :=
    (Session.start table).play_areaScript sizes
  have greatest (sizes : List UInt32) : IsGreatest (askedAreas sizes) (area sizes) := by
    change IsGreatest _ (run sizes).procedure.callArea.toNat
    rw [played]
    exact isGreatest_areaAfterAll sizes
  refine ⟨fun size refusal => Command.growCallArea_refused_iff, fun size large => ?_,
    greatest sizes, dvd_of_mem_askedAreas (greatest sizes).1, fun more => ?_,
    fun size asked fits => ?_, fun others same => ?_⟩
  · rw [Command.run_growCallArea, growCallArea_eq_error_iff.mpr ⟨rfl, large⟩]
  · have included := askedAreas_mono (List.subset_append_left sizes more)
    exact (greatest sizes).mono (greatest (sizes ++ more)) included
  · obtain ⟨bytes, asked, holds⟩ := exists_askedArea asked fits
    exact holds.trans ((greatest sizes).2 asked)
  · rw [played, played, areaAfterAll_perm same]

/-- Two requests in either order, between them the smallest one that is refused, and behind them
the largest one that is granted. -/
theorem call_area_covers_requests_extremes :
    let run (sizes : List UInt32) : Session :=
      ((Session.start ConventionTable.empty).play (areaScript sizes)).2
    let area (sizes : List UInt32) : Nat := (run sizes).procedure.callArea.toNat
    let sizes : List UInt32 := [1, 4294967281, 40]
    let others : List UInt32 := [40, 4294967281, 1]
    (UInt32.size - 16 < (4294967281 : UInt32).toNat ∧
        ((Command.growCallArea 4294967281).run.run.run (run sizes)).2 = run sizes) ∧
      area sizes ≤ area (sizes ++ [4294967280]) ∧
      (40 ∈ sizes ∧ (40 : UInt32).toNat ≤ UInt32.size - 16 ∧ (40 : UInt32).toNat ≤ area sizes) ∧
      others.Perm sizes ∧ run others = run sizes := by
  intro run area sizes others
  obtain ⟨-, unchanged, -, -, grows, covers, reordered⟩ :=
    call_area_covers_requests ConventionTable.empty sizes
  have large : UInt32.size - 16 < (4294967281 : UInt32).toNat := by decide
  have asked : 40 ∈ sizes := by decide
  have fits : (40 : UInt32).toNat ≤ UInt32.size - 16 := by decide
  have same : others.Perm sizes := by decide
  exact ⟨⟨large, unchanged 4294967281 large⟩, grows [4294967280],
    ⟨asked, fits, covers 40 asked fits⟩, same, reordered others same⟩

end Procedure

end BackendIR
