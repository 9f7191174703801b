import BackendIR.Proofs.Walk.Coverage

/-!
# Effects and surveys

Whether an instruction has effects of its own is found by the convention of its opcode and its
metadata, the survey by its operands as well, and the two do not consult each other. The
question for effects fails for one of two causes (`BackendIR.Instr.Unclassified`). Either of them
refuses the survey too, by the same fault and before anything is listed, since it is no
shuffle (`BackendIR.Instr.Unclassified.survey_eq_refused`). So an instruction that can be walked
over has a known answer, and no walk changes it, because a walk changes operands only
(`BackendIR.Instr.effects_known_of_surveyed`).
-/

namespace BackendIR.Instr

/-- Why the effects of an instruction are not known. -/
inductive Unclassified (instr : Instr) (table : ConventionTable) : Fault → Prop where
  | unbound (missing : table.convention? instr.opcode = none) :
      Unclassified instr table (.unrecognized instr.opcode.name)
  | undescribed (bound : table.convention? instr.opcode = some (.derived .patch))
      (lacking : ∀ accesses effects, instr.metadata ≠ .patch accesses effects) :
      Unclassified instr table (.malformed instr.opcode.name .missingPatch)

/-- The instruction that a walk leaves: the one it gives, or the old one if it is refused. -/
def leftBy (instr : Instr) (walked : Except Fault Instr) : Instr :=
  walked.toOption.getD instr

variable {instr : Instr} {table : ConventionTable} {fault : Fault}

/-- The effects of an opcode with fixed forms are part of its convention. -/
theorem effects_of_fixed {forms : List (List Access)} {answer : Bool}
    (bound : table.convention? instr.opcode = some (.fixed forms answer)) :
    instr.effects table = .ok answer := by
  simp only [effects, ConventionTable.convention, bound]

/-- The effects of an opcode with a derived convention are told by its strategy. -/
theorem effects_of_derived {strategy : Strategy}
    (bound : table.convention? instr.opcode = some (.derived strategy)) :
    instr.effects table = instr.effectsBy strategy := by
  simp only [effects, ConventionTable.convention, bound]

/-- Of the strategies, only patches look at the metadata for effects. -/
theorem effectsBy_eq_error_iff {strategy : Strategy} :
    instr.effectsBy strategy = .error fault ↔
      strategy = .patch ∧ (∀ accesses effects, instr.metadata ≠ .patch accesses effects) ∧
        fault = .malformed instr.opcode.name .missingPatch := by
  cases strategy with
  | shuffle | call | coldCall => simp [effectsBy]
  | patch => cases described : instr.metadata <;> simp [effectsBy, described, eq_comm]

/-- **Causes of unknown effects.** The effects of an instruction are a fault exactly if its opcode
is unbound, or a patch is not described. -/
theorem effects_eq_error_iff :
    instr.effects table = .error fault ↔ instr.Unclassified table fault := by
  constructor
  · intro failed
    cases bound : table.convention? instr.opcode with
    | none =>
        simp only [effects, ConventionTable.convention, bound] at failed
        cases failed
        exact .unbound bound
    | some convention =>
        cases convention with
        | fixed forms answer => cases (effects_of_fixed bound).symm.trans failed
        | derived strategy =>
            rw [effects_of_derived bound] at failed
            obtain ⟨rfl, lacking, rfl⟩ := effectsBy_eq_error_iff.mp failed
            exact .undescribed bound lacking
  · intro cause
    cases cause with
    | unbound missing => simp only [effects, ConventionTable.convention, missing]
    | undescribed bound lacking =>
        rw [effects_of_derived bound]
        exact effectsBy_eq_error_iff.mpr ⟨rfl, lacking, rfl⟩

namespace Unclassified

/-- An instruction of unknown effects is refused by the survey too, with the same fault. -/
theorem refused (cause : instr.Unclassified table fault) : instr.Refused table fault := by
  cases cause with
  | unbound missing => exact .unbound missing
  | undescribed bound lacking => exact .malformed bound (.missingPatch lacking)

/-- The effects of a shuffle are always known. -/
theorem not_shuffle (cause : instr.Unclassified table fault) :
    table.convention? instr.opcode ≠ some (.derived .shuffle) := by
  intro shuffles
  cases cause with
  | unbound missing => cases missing.symm.trans shuffles
  | undescribed bound _ => cases bound.symm.trans shuffles

/-- The survey is refused by the same fault at once. -/
theorem survey_eq_refused (cause : instr.Unclassified table fault) :
    (instr.survey table).outcome = .error fault ∧ (instr.survey table).sites = [] := by
  have outcome := outcome_survey_eq_error_iff.mpr cause.refused
  have listed := sites_of_error outcome
  rw [if_neg cause.not_shuffle] at listed
  exact ⟨outcome, listed⟩

end Unclassified

/-- The effects of an accepted instruction are known. -/
theorem exists_effects_of_survey (accepted : (instr.survey table).outcome = .ok ()) :
    ∃ effects, instr.effects table = .ok effects := by
  cases asked : instr.effects table with
  | ok effects => exact ⟨effects, rfl⟩
  | error fault =>
      have refused := (effects_eq_error_iff.mp asked).survey_eq_refused.1
      cases accepted.symm.trans refused

/-- The operands do not matter for effects, under whatever conventions they are asked for. -/
theorem effects_withOperands (operands : List Operand) :
    { instr with operands }.effects table = instr.effects table := rfl

/-- A walk leaves an instruction of the same effects, whatever the visitor does. -/
theorem effects_leftBy_updateOperands {σ : Type} (visitor : Operand → Access → StateM σ Operand)
    (state : σ) (asked : ConventionTable) :
    (instr.leftBy ((instr.updateOperands table visitor).run state).1).effects asked =
      instr.effects asked := by
  cases outcome : (instr.survey table).outcome with
  | error fault =>
      rw [run_updateOperands_of_error outcome]
      rfl
  | ok done =>
      rw [run_updateOperands outcome]
      exact effects_withOperands _

/-- **Effects are known where a survey is accepted.** Where the effects of an instruction are not
known, which is for one of two causes, its survey is refused by the same fault and lists
nothing. So an accepted survey comes with an answer about effects. The answer does not depend
on the operands, and no updating walk changes it, accepted or refused, whatever its visitor
does and under whatever conventions it is asked for again. -/
theorem effects_known_of_surveyed (instr : Instr) (table : ConventionTable) :
    (∀ fault, instr.effects table = .error fault ↔ instr.Unclassified table fault) ∧
      (∀ fault, instr.effects table = .error fault →
        (instr.survey table).outcome = .error fault ∧ (instr.survey table).sites = []) ∧
      ((instr.survey table).outcome = .ok () → ∃ effects, instr.effects table = .ok effects) ∧
      (∀ operands : List Operand, { instr with operands }.effects table = instr.effects table) ∧
      (∀ (σ : Type) (visitor : Operand → Access → StateM σ Operand) (state : σ)
          (asked : ConventionTable),
        (instr.leftBy ((instr.updateOperands table visitor).run state).1).effects asked =
          instr.effects asked) ∧
      ∀ (σ α : Type) [Part α] (visitor : Visitor σ α) (state : σ) (asked : ConventionTable),
        (instr.leftBy ((instr.updateParts table visitor).run state).1).effects asked =
          instr.effects asked := by
  refine ⟨fun fault => effects_eq_error_iff, fun fault failed => ?_, exists_effects_of_survey,
    effects_withOperands, ?_, ?_⟩
  · exact (effects_eq_error_iff.mp failed).survey_eq_refused
  · exact fun σ visitor state asked => effects_leftBy_updateOperands visitor state asked
  · exact fun σ α _ visitor state asked => effects_leftBy_updateOperands _ state asked

/-- A patch with the metadata of a call, and one that is described. -/
theorem effects_known_of_surveyed_patches :
    let patch : Opcode := ⟨7, "Patch"⟩
    let table := ConventionTable.empty.bind patch (.derived .patch)
    let called : Instr := ⟨patch, [.special], .call ⟨.void, []⟩⟩
    let described : Instr := ⟨patch, [.special], .patch [⟨.use, .gp, .w64⟩] true⟩
    let fault : Fault := .malformed "Patch" .missingPatch
    (called.effects table = .error fault ∧
        (called.survey table).outcome = .error fault ∧ (called.survey table).sites = []) ∧
      (described.survey table).outcome = .ok () ∧
        ∃ effects, described.effects table = .ok effects := by
  intro patch table called described fault
  have failed : called.effects table = .error fault := rfl
  have accepted : (described.survey table).outcome = .ok () := rfl
  obtain ⟨-, refusal, -⟩ := effects_known_of_surveyed called table
  obtain ⟨-, -, known, -⟩ := effects_known_of_surveyed described table
  exact ⟨⟨failed, refusal fault failed⟩, accepted, known accepted⟩

end BackendIR.Instr
