import Mathlib.Data.Set.Function
import BackendIR.Temp

/-!
# Fingerprints tell values apart

Registers, virtual values and spilled values share the words of one fingerprint. Each bank has its
sign, and within a bank each family has a range: registers come first, virtual values next, and
spilled values last (`BackendIR.Temp.magnitude`). As long as the numbers stay in these ranges
(`BackendIR.Temp.Separated`), a value can be read back from its fingerprint
(`BackendIR.Temp.readBack_fingerprint`). Within one family no two numbers are confused even where
they wrap.
-/

namespace BackendIR

/-- A word with the sign that fingerprints of a bank have. -/
def Bank.signed : Bank → Int32 → Int32
  | .gp, word => word
  | .fp, word => -word

private theorem toInt32_eq_ofNat (word : UInt32) : word.toInt32 = Int32.ofNat word.toNat := by
  rw [← UInt32.toInt32_ofNat', UInt32.ofNat_toNat]

/-- Reading words as signed loses nothing. -/
theorem toInt32_injective : Function.Injective UInt32.toInt32 :=
  fun _ _ => congrArg Int32.toUInt32

namespace Temp

/-- The fingerprint without its sign, and without wrapping. -/
def magnitude : Temp → Nat
  | .register holder => 1 + holder.index
  | .virtual _ index => 17 + index.toNat
  | .spilled slot _ => Nat.pow 2 29 + slot.index.toNat

/-- The value's number is small enough for the range of its family. -/
def Separated : Temp → Prop
  | .register _ => True
  | .virtual _ index => index.toNat ≤ Nat.pow 2 29 - 18
  | .spilled slot _ => slot.index.toNat ≤ Nat.pow 2 31 - 1 - Nat.pow 2 29

instance : DecidablePred Separated
  | .register _ => inferInstanceAs (Decidable True)
  | .virtual _ index => inferInstanceAs (Decidable (index.toNat ≤ _))
  | .spilled slot _ => inferInstanceAs (Decidable (slot.index.toNat ≤ _))

/-- The value with a magnitude that is in one of the ranges. -/
def ofMagnitude (bank : Bank) (magnitude : Nat) : Temp :=
  if inside : magnitude - 1 < 16 then .register ⟨bank, ⟨magnitude - 1, inside⟩⟩
  else if magnitude < Nat.pow 2 29 then .virtual bank (UInt32.ofNat (magnitude - 17))
  else .spilled ⟨UInt32.ofNat (magnitude - Nat.pow 2 29)⟩ bank

/-- The value with a fingerprint, by its sign and its magnitude. -/
def readBack (fingerprint : Int32) : Temp :=
  ofMagnitude (if 0 < fingerprint then .gp else .fp) fingerprint.toInt.natAbs

variable {temp : Temp}

/-- Fingerprints are signed magnitudes, in wrapping arithmetic. -/
theorem fingerprint_eq_signed (temp : Temp) :
    temp.fingerprint = temp.bank.signed (Int32.ofNat temp.magnitude) := by
  cases temp with
  | register holder =>
      obtain ⟨bank, index⟩ := holder
      rw [magnitude, Int32.ofNat_add]
      cases bank with
      | gp => rfl
      | fp => exact Int32.neg_add.symm
  | virtual bank index =>
      rw [magnitude, Int32.ofNat_add, ← toInt32_eq_ofNat]
      cases bank with
      | gp => rfl
      | fp => exact Int32.neg_add.symm
  | spilled slot bank =>
      rw [magnitude, Int32.ofNat_add, ← toInt32_eq_ofNat]
      cases bank with
      | gp => rfl
      | fp => rfl

/-- In its range, a magnitude is positive and fits into a signed word. -/
theorem magnitude_bounds (separated : temp.Separated) :
    0 < temp.magnitude ∧ temp.magnitude < Nat.pow 2 31 := by
  have base : Nat.pow 2 29 = 536870912 := rfl
  have limit : Nat.pow 2 31 = 2147483648 := rfl
  cases temp with
  | register holder =>
      have inside := holder.index.isLt
      simp only [magnitude]
      omega
  | virtual bank index =>
      simp only [Separated, magnitude] at separated ⊢
      omega
  | spilled slot bank =>
      simp only [Separated, magnitude] at separated ⊢
      omega

/-- In the ranges nothing wraps. -/
theorem toInt_fingerprint (separated : temp.Separated) :
    temp.fingerprint.toInt =
      match temp.bank with
      | .gp => (temp.magnitude : Int)
      | .fp => -(temp.magnitude : Int) := by
  obtain ⟨-, bounded⟩ := magnitude_bounds separated
  have limit : Nat.pow 2 31 = 2147483648 := rfl
  have small : (Int32.ofNat temp.magnitude).toInt = temp.magnitude :=
    Int32.toInt_ofNat_of_lt bounded
  rw [fingerprint_eq_signed]
  cases temp.bank with
  | gp => exact small
  | fp =>
      change (-Int32.ofNat temp.magnitude).toInt = _
      rw [Int32.toInt_neg, small]
      exact Int.bmod_eq_of_le (by omega) (by omega)

/-- General-purpose values in their range have positive fingerprints. -/
theorem fingerprint_pos (separated : temp.Separated) (general : temp.bank = .gp) :
    0 < temp.fingerprint := by
  have known := toInt_fingerprint separated
  rw [general] at known
  rw [Int32.lt_iff_toInt_lt, known]
  exact Int.natCast_pos.mpr (magnitude_bounds separated).1

/-- Floating-point values in their range have negative fingerprints. -/
theorem fingerprint_neg (separated : temp.Separated) (floating : temp.bank = .fp) :
    temp.fingerprint < 0 := by
  have known := toInt_fingerprint separated
  rw [floating] at known
  rw [Int32.lt_iff_toInt_lt, known]
  exact Int.neg_neg_of_pos (Int.natCast_pos.mpr (magnitude_bounds separated).1)

/-- The ranges do not overlap. -/
theorem ofMagnitude_magnitude (separated : temp.Separated) :
    ofMagnitude temp.bank temp.magnitude = temp := by
  have base : Nat.pow 2 29 = 536870912 := rfl
  cases temp with
  | register holder =>
      obtain ⟨bank, index⟩ := holder
      have back : 1 + index.val - 1 = index.val := Nat.add_sub_cancel_left 1 index.val
      have inside : 1 + index.val - 1 < 16 := back.trans_lt index.isLt
      rw [magnitude, ofMagnitude, dif_pos inside]
      exact congrArg (fun index => Temp.register ⟨bank, index⟩) (Fin.ext back)
  | virtual bank index =>
      have bounded : index.toNat ≤ Nat.pow 2 29 - 18 := separated
      have beyond : ¬ 17 + index.toNat - 1 < 16 := by omega
      have below : 17 + index.toNat < Nat.pow 2 29 := by omega
      rw [magnitude, ofMagnitude, dif_neg beyond, if_pos below, Nat.add_sub_cancel_left,
        UInt32.ofNat_toNat]
      rfl
  | spilled slot bank =>
      have beyond : ¬ Nat.pow 2 29 + slot.index.toNat - 1 < 16 := by omega
      have above : ¬ Nat.pow 2 29 + slot.index.toNat < Nat.pow 2 29 := by omega
      rw [magnitude, ofMagnitude, dif_neg beyond, if_neg above, Nat.add_sub_cancel_left,
        UInt32.ofNat_toNat]
      rfl

/-- **Values can be read back.** As long as its number is in the range of its family, a value is
determined by its fingerprint. -/
theorem readBack_fingerprint (separated : temp.Separated) : readBack temp.fingerprint = temp := by
  have sign : (if 0 < temp.fingerprint then Bank.gp else .fp) = temp.bank := by
    cases bank : temp.bank with
    | gp => exact if_pos (fingerprint_pos separated bank)
    | fp => exact if_neg (Int32.lt_asymm (fingerprint_neg separated bank))
  have size : temp.fingerprint.toInt.natAbs = temp.magnitude := by
    rw [toInt_fingerprint separated]
    cases temp.bank with
    | gp => exact Int.natAbs_natCast _
    | fp => rw [Int.natAbs_neg, Int.natAbs_natCast]
  rw [readBack, sign, size, ofMagnitude_magnitude separated]

/-! ### Single families -/

/-- Virtual values of one bank never share a fingerprint, in or out of the range. -/
theorem fingerprint_virtual_injective (bank : Bank) :
    Function.Injective fun index => (Temp.virtual bank index).fingerprint := by
  intro first second same
  cases bank with
  | gp => exact toInt32_injective ((Int32.add_right_inj 17).mp same)
  | fp => exact toInt32_injective ((Int32.sub_right_inj (-17)).mp same)

/-- Spilled values of one bank never share a fingerprint, in or out of the range. -/
theorem fingerprint_spilled_injective (bank : Bank) :
    Function.Injective fun slot => (Temp.spilled slot bank).fingerprint := by
  intro first second same
  have indices : first.index = second.index := by
    apply toInt32_injective
    cases bank with
    | gp => exact (Int32.add_right_inj spillBase).mp same
    | fp => exact (Int32.add_right_inj spillBase).mp (Int32.neg_inj.mp same)
  exact congrArg SlotId.mk indices

/-- **Fingerprints tell values apart.** No two registers, virtual values or spilled values
whose numbers stay in the ranges of their families have the same fingerprint, and fingerprints of
general purpose values are positive, of floating point values negative. The first virtual
value out of range has the fingerprint of a spilled one. Within one family and bank, no two
numbers have the same fingerprint, whatever they are. -/
theorem fingerprint_separates_families :
    Set.InjOn fingerprint {temp | temp.Separated} ∧
      (∀ temp : Temp, temp.Separated →
        (temp.bank = .gp → 0 < temp.fingerprint) ∧ (temp.bank = .fp → temp.fingerprint < 0)) ∧
      (Temp.virtual .gp (UInt32.ofNat (Nat.pow 2 29 - 17))).fingerprint =
        (Temp.spilled ⟨0⟩ .gp).fingerprint ∧
      ∀ bank : Bank,
        Function.Injective (fun index : UInt32 => (Temp.virtual bank index).fingerprint) ∧
          Function.Injective (fun slot : SlotId => (Temp.spilled slot bank).fingerprint) := by
  have inverse : Set.LeftInvOn readBack fingerprint {temp | temp.Separated} :=
    fun _ separated => readBack_fingerprint separated
  refine ⟨inverse.injOn, fun temp separated => ?_, by decide, fun bank => ?_⟩
  · exact ⟨fingerprint_pos separated, fingerprint_neg separated⟩
  · exact ⟨fingerprint_virtual_injective bank, fingerprint_spilled_injective bank⟩

/-- The last virtual value in range and the first spilled one, whose fingerprints are next to each
other, and in the other bank the last spilled value in range. -/
theorem fingerprint_separates_families_neighbours :
    let first : Temp := .spilled ⟨0⟩ .fp
    let last : Temp := .virtual .fp (UInt32.ofNat (Nat.pow 2 29 - 18))
    let highest : Temp := .spilled ⟨UInt32.ofNat (Nat.pow 2 31 - 1 - Nat.pow 2 29)⟩ .gp
    (first.Separated ∧ last.Separated ∧ first.fingerprint ≠ last.fingerprint) ∧
      (last.bank = .fp ∧ last.fingerprint < 0) ∧
      highest.Separated ∧ highest.bank = .gp ∧ 0 < highest.fingerprint := by
  intro first last highest
  have lowest : first.Separated := Nat.zero_le _
  have below : last.Separated := by decide
  have above : highest.Separated := by decide
  obtain ⟨apart, signs, -⟩ := fingerprint_separates_families
  refine ⟨⟨lowest, below, fun same => ?_⟩, ⟨rfl, (signs last below).2 rfl⟩,
    above, rfl, (signs highest above).1 rfl⟩
  exact absurd (apart lowest below same) (by decide)

end Temp

end BackendIR
