import BackendIR.Instr.Survey

/-!
# Banks of operands

Every operand admits the bank it is taken to be of. One that fixes a bank admits no other, and
one that fixes none can be general purpose. So two operands can share a bank exactly if some
bank is admitted by both (`BackendIR.Operand.canShareBank_iff_exists`), and then the bank of a move
between them is such a one (`BackendIR.Operand.admits_moveBank_iff`).

Only floating point values do not admit the general purpose bank, and the operands that do not
admit the other one are listed (`BackendIR.Operand.GPOnly`). Sharing fails exactly between an
operand of the one sort and an operand of the other
(`BackendIR.Operand.sharing_fails_by_kind`).
-/

namespace BackendIR.Operand

variable {operand source target : Operand} {bank : Bank}

/-- A value can stand in a place of its own bank alone. -/
theorem admits_temp_iff {value : Temp} : (Operand.temp value).admits bank ↔ bank = value.bank := by
  cases bank with
  | gp => cases held : value.bank <;> simp [admits, isGP, Temp.isGP, held, Bank.isGP]
  | fp => cases held : value.bank <;> simp [admits, isFP, Temp.isFP, held, Bank.isFP]

private theorem bank_temp (value : Temp) : (Operand.temp value).bank = value.bank := by
  cases held : value.bank <;> simp [Operand.bank, isGP, Temp.isGP, held, Bank.isGP]

/-- An operand that fixes a bank admits that bank alone. -/
theorem admits_iff_of_fixesBank (fixes : operand.fixesBank) :
    operand.admits bank ↔ bank = operand.bank := by
  cases operand with
  | temp value => rw [admits_temp_iff, bank_temp]
  | number value | pattern value | pattern64 low high =>
      cases bank <;> simp [admits, isGP, isFP, Operand.bank]
  | _ => cases fixes

/-- An operand that fixes no bank can be general purpose. -/
theorem isGP_of_not_fixesBank (free : ¬ operand.fixesBank) : operand.isGP := by
  cases operand with
  | temp value => exact absurd rfl free
  | _ => rfl

/-- **Sharing a bank** is to have one that both admit. -/
theorem canShareBank_iff_exists :
    source.canShareBank target ↔ ∃ bank, source.admits bank ∧ target.admits bank := by
  by_cases left : source.fixesBank
  · rw [canShareBank, if_pos left]
    simp only [admits_iff_of_fixesBank left, exists_eq_left]
  · by_cases right : target.fixesBank
    · rw [canShareBank, if_neg left, if_pos right]
      simp only [admits_iff_of_fixesBank right, exists_eq_right]
    · rw [canShareBank, if_neg left, if_neg right]
      exact iff_of_true rfl ⟨.gp, isGP_of_not_fixesBank left, isGP_of_not_fixesBank right⟩

/-- Every operand can stand in a place of the bank it is taken to be of. -/
theorem admits_bank (operand : Operand) : operand.admits operand.bank := by
  by_cases fixes : operand.fixesBank
  · exact (admits_iff_of_fixesBank fixes).mpr rfl
  · have general := isGP_of_not_fixesBank fixes
    rw [Operand.bank, if_pos general]
    exact general

/-- Sharing a bank is symmetric, although the left operand decides first. -/
theorem canShareBank_comm : source.canShareBank target ↔ target.canShareBank source := by
  simp only [canShareBank_iff_exists, and_comm]

/-- Every operand shares a bank with itself. -/
theorem canShareBank_self (operand : Operand) : operand.canShareBank operand :=
  canShareBank_iff_exists.mpr ⟨operand.bank, operand.admits_bank, operand.admits_bank⟩

/-- A move is general purpose exactly if both ends can be. -/
theorem moveBank_eq_gp_iff : source.moveBank target = .gp ↔ source.isGP ∧ target.isGP := by
  rw [moveBank, ite_eq_left_iff, Bool.and_eq_true]
  simp

/-- Both ends of a move admit its bank exactly if they can share one. -/
theorem admits_moveBank_iff :
    source.admits (source.moveBank target) ∧ target.admits (source.moveBank target) ↔
      source.canShareBank target := by
  rw [canShareBank_iff_exists]
  constructor
  · exact fun admitted => ⟨_, admitted⟩
  · rintro ⟨shared, admitted⟩
    cases moved : source.moveBank target with
    | gp => exact moveBank_eq_gp_iff.mp moved
    | fp =>
        cases shared with
        | fp => exact admitted
        | gp =>
            -- Both ends can be general purpose, and then so is the move.
            rw [moveBank_eq_gp_iff.mpr admitted] at moved
            cases moved

/-! ### Operands of one bank -/

/-- A floating point value. -/
def IsFPTemp (operand : Operand) : Prop :=
  ∃ value : Temp, operand = .temp value ∧ value.bank = .fp

/-- The operands that cannot stand in a floating point place. -/
inductive GPOnly : Operand → Prop where
  | temp {value : Temp} (general : value.bank = .gp) : GPOnly (.temp value)
  | number (value : Int32) : GPOnly (.number value)
  | pattern (value : Int32) : GPOnly (.pattern value)
  | pattern64 (low high : Int32) : GPOnly (.pattern64 low high)
  | comparison (condition : Comparison) : GPOnly (.comparison condition)
  | resultTest (condition : ResultTest) : GPOnly (.resultTest condition)
  | floatComparison (condition : FloatComparison) : GPOnly (.floatComparison condition)
  | special : GPOnly .special
  | width (tag : Width) : GPOnly (.width tag)

/-- Only floating point values cannot stand in a general purpose place. -/
theorem not_admits_gp_iff : ¬ operand.admits .gp ↔ operand.IsFPTemp := by
  cases operand with
  | temp value => cases held : value.bank <;> simp [admits_temp_iff, IsFPTemp, held]
  | _ => simp [admits, isGP, IsFPTemp]

/-- The operands that cannot stand in a floating point place are those listed. -/
theorem not_admits_fp_iff : ¬ operand.admits .fp ↔ operand.GPOnly := by
  constructor
  · intro refused
    cases operand with
    | temp value =>
        cases held : value.bank with
        | gp => exact .temp held
        | fp => exact absurd (admits_temp_iff.mpr held.symm) refused
    | address | indexed | stack | outgoing | number64 => exact absurd rfl refused
    | _ => constructor
  · intro only admitted
    cases only with
    | temp general => cases general.symm.trans (admits_temp_iff.mp admitted).symm
    | _ => cases admitted

private theorem IsFPTemp.admits_fp (value : operand.IsFPTemp) : operand.admits .fp := by
  obtain ⟨held, rfl, floating⟩ := value
  exact admits_temp_iff.mpr floating.symm

/-- A floating point value shares no bank with an operand that can only be general purpose. -/
theorem IsFPTemp.not_canShareBank (value : source.IsFPTemp) (only : target.GPOnly) :
    ¬ source.canShareBank target := by
  rw [canShareBank_iff_exists]
  rintro ⟨bank, left, right⟩
  cases bank with
  | gp => exact not_admits_gp_iff.mpr value left
  | fp => exact not_admits_fp_iff.mpr only right

/-- Sharing fails only between a floating point value and an operand that can only be general
purpose. -/
theorem not_canShareBank_iff :
    ¬ source.canShareBank target ↔
      source.IsFPTemp ∧ target.GPOnly ∨ target.IsFPTemp ∧ source.GPOnly := by
  constructor
  · rw [canShareBank_iff_exists]
    intro apart
    by_cases general : source.admits .gp
    · have value : target.IsFPTemp :=
        not_admits_gp_iff.mp fun admitted => apart ⟨.gp, general, admitted⟩
      exact .inr ⟨value, not_admits_fp_iff.mp fun admitted =>
        apart ⟨.fp, admitted, value.admits_fp⟩⟩
    · have value : source.IsFPTemp := not_admits_gp_iff.mp general
      exact .inl ⟨value, not_admits_fp_iff.mp fun admitted =>
        apart ⟨.fp, value.admits_fp, admitted⟩⟩
  · rintro (⟨value, only⟩ | ⟨value, only⟩)
    · exact value.not_canShareBank only
    · exact fun shared => value.not_canShareBank only (canShareBank_comm.mp shared)

/-- **Where sharing fails.** Two operands can share a bank exactly if some bank is admitted by
both. So sharing goes both ways and every operand shares with itself; it fails exactly between
a floating point value and an operand that cannot stand in a floating point place. -/
theorem sharing_fails_by_kind (left right : Operand) :
    (left.canShareBank right ↔ ∃ bank, left.admits bank ∧ right.admits bank) ∧
      left.canShareBank right = right.canShareBank left ∧
      left.canShareBank left ∧
      (left.canShareBank right = false ↔
        left.IsFPTemp ∧ right.GPOnly ∨ right.IsFPTemp ∧ left.GPOnly) ∧
      (left.isFP = false ↔ left.GPOnly) := by
  refine ⟨canShareBank_iff_exists, Bool.eq_iff_iff.mpr canShareBank_comm, canShareBank_self left,
    ?_, ?_⟩
  · rw [← Bool.not_eq_true]
    exact not_canShareBank_iff
  · rw [← Bool.not_eq_true]
    exact not_admits_fp_iff

end BackendIR.Operand
