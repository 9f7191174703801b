import BackendIR.Proofs.Walk.Sites
import BackendIR.Proofs.Convention.LastBinding

/-!
# Opcode names do not matter

Since opcodes of one code are one key of every table, instructions that differ in the names of
their opcodes alone (`BackendIR.Instr.Twins`) are the same instruction to everything but messages:
they compare equal, they have one fingerprint, and under every table all walks and the question
for effects give the same answers, where a refusal carries the instruction's own opcode name
(`BackendIR.Instr.AgreeUnder`).
-/

namespace BackendIR

/-- The fault with another opcode name in it. -/
def Fault.renamed (name : String) : Fault → Fault
  | .unrecognized _ => .unrecognized name
  | .noForm _ arity => .noForm name arity
  | .malformed _ reason => .malformed name reason
  | fault => fault

namespace Survey

/-- The survey with another opcode name in its fault. -/
def renamed (name : String) (survey : Survey) : Survey :=
  ⟨survey.sites, survey.outcome.mapError (Fault.renamed name)⟩

/-- A survey of moves uses the opcode only to name it in a fault. -/
theorem moves_eq_renamed (left right : Opcode) (position : Nat) (operands : List Operand) :
    moves left position operands = (moves right position operands).renamed left.name := by
  fun_induction moves left position operands with
  | case1 position source target tag rest width found bank ih =>
      rw [moves, found, ih]
      rfl
  | case2 position source target tag rest missing =>
      rw [moves, missing]
      rfl
  | case3 position operands short =>
      rw [moves]
      · rfl
      · exact short

end Survey

namespace Instr

/-- The same instruction, but for the name of its opcode. -/
structure Twins (left right : Instr) : Prop where
  code : left.opcode.code = right.opcode.code
  operands : left.operands = right.operands
  metadata : left.metadata = right.metadata

/-- What an updating walk gives for an instruction, put in terms of another opcode. -/
def relabel (opcode : Opcode) (walked : Except Fault Instr) : Except Fault Instr :=
  (walked.map fun instr => { instr with opcode }).mapError (Fault.renamed opcode.name)

/-- All walks and the effects agree, up to the first instruction's opcode name. -/
structure AgreeUnder (table : ConventionTable) (left right : Instr) : Prop where
  survey : left.survey table = (right.survey table).renamed left.opcode.name
  sightings : left.sightings table =
    ((right.sightings table).1,
      (right.sightings table).2.mapError (Fault.renamed left.opcode.name))
  updateOperands : ∀ (σ : Type) (visitor : Operand → Access → StateM σ Operand) (state : σ),
    (left.updateOperands table visitor).run state =
      let walked := (right.updateOperands table visitor).run state
      (relabel left.opcode walked.1, walked.2)
  updateParts : ∀ (σ α : Type) [Part α] (visitor : Visitor σ α) (state : σ),
    (left.updateParts table visitor).run state =
      let walked := (right.updateParts table visitor).run state
      (relabel left.opcode walked.1, walked.2)
  effects : left.effects table =
    (right.effects table).mapError (Fault.renamed left.opcode.name)

namespace Twins

variable {left right : Instr}

/-- Twins are the same instruction, whatever their opcodes are called. -/
theorem same (twins : left.Twins right) : left.same right = true := by
  simp [Instr.same, Opcode.same, twins.code, twins.operands, twins.metadata]

/-- Twins have one fingerprint. -/
theorem fingerprint_eq (twins : left.Twins right) : left.fingerprint = right.fingerprint := by
  unfold fingerprint
  rw [twins.code, twins.operands]

/-- A table has one convention for twins. -/
theorem convention?_eq (twins : left.Twins right) (table : ConventionTable) :
    table.convention? left.opcode = table.convention? right.opcode := by
  apply Std.TreeMap.getElem?_congr
  rw [Opcode.byCode_eq_eq_iff_same, Opcode.same_iff]
  exact twins.code

private theorem surveyAll_eq (accesses : Except Malformation (List Access)) :
    left.surveyAll accesses = (right.surveyAll accesses).renamed left.opcode.name := by
  cases accesses <;> rfl

/-- Twins are surveyed alike by every strategy. -/
theorem surveyBy_eq (twins : left.Twins right) (strategy : Strategy) :
    left.surveyBy strategy = (right.surveyBy strategy).renamed left.opcode.name := by
  have patched : left.patchAccesses = right.patchAccesses := by
    unfold patchAccesses
    rw [twins.operands, twins.metadata]
  have called : left.callAccesses = right.callAccesses := by
    unfold callAccesses
    rw [twins.operands, twins.metadata]
  cases strategy with
  | shuffle =>
      unfold surveyBy
      rw [twins.operands]
      exact Survey.moves_eq_renamed _ _ _ _
  | patch =>
      unfold surveyBy
      rw [patched]
      exact surveyAll_eq _
  | call =>
      unfold surveyBy
      rw [called]
      exact surveyAll_eq _
  | coldCall =>
      unfold surveyBy
      rw [called]
      exact surveyAll_eq _

/-- Twins are surveyed alike under every convention. -/
theorem surveyUnder_eq (twins : left.Twins right) (convention : Convention) :
    left.surveyUnder convention =
      (right.surveyUnder convention).renamed left.opcode.name := by
  cases convention with
  | derived strategy => exact twins.surveyBy_eq strategy
  | fixed forms effects =>
      simp only [surveyUnder, twins.operands]
      cases forms.find? (fun form => form.length == right.operands.length) <;> rfl

/-- Under one table, the surveys of twins differ at most in the name that a fault gives. -/
theorem survey_eq (twins : left.Twins right) (table : ConventionTable) :
    left.survey table = (right.survey table).renamed left.opcode.name := by
  unfold survey ConventionTable.convention
  rw [twins.convention?_eq table]
  cases table.convention? right.opcode with
  | none => rfl
  | some convention => exact twins.surveyUnder_eq convention

/-- The effects of twins are equal, or both are unknown for the same reason. -/
theorem effects_eq (twins : left.Twins right) (table : ConventionTable) :
    left.effects table = (right.effects table).mapError (Fault.renamed left.opcode.name) := by
  unfold effects ConventionTable.convention
  rw [twins.convention?_eq table]
  cases table.convention? right.opcode with
  | none => rfl
  | some convention =>
      cases convention with
      | fixed forms effects => rfl
      | derived strategy =>
          simp only [effectsBy, twins.metadata]
          cases strategy <;> cases right.metadata <;> rfl

/-- Walks over twins make the same calls and leave twins, or the same fault by another name. -/
theorem run_updateOperands_eq (twins : left.Twins right) (table : ConventionTable) {σ : Type}
    (visitor : Operand → Access → StateM σ Operand) (state : σ) :
    (left.updateOperands table visitor).run state =
      let walked := (right.updateOperands table visitor).run state
      (relabel left.opcode walked.1, walked.2) := by
  simp only [updateOperands, twins.survey_eq table, Survey.renamed, twins.operands, twins.metadata]
  cases (right.survey table).outcome <;> rfl

/-- Twins agree under every table. -/
theorem agreeUnder (twins : left.Twins right) (table : ConventionTable) :
    left.AgreeUnder table right where
  survey := twins.survey_eq table
  sightings := by
    unfold sightings
    rw [twins.survey_eq table, twins.operands]
    rfl
  updateOperands _ visitor state := twins.run_updateOperands_eq table visitor state
  updateParts _ _ _ visitor state := twins.run_updateOperands_eq table _ state
  effects := twins.effects_eq table

end Twins

end Instr

/-- **The last binding of a code counts.** After any bindings, from the empty or from the
standard table, a table answers by the last binding of the code that it is asked for,
whatever the names. Binding an opcode gives the convention that was in force for its code, and
leaves a table that answers by the history with the new binding at its end. Instructions
that differ in opcode names alone are equal, have one fingerprint, and agree under every
table. -/
theorem ConventionTable.last_binding_counts :
    (∀ bindings : List (Opcode × Convention),
        (empty.bindAll bindings).Follows bindings ∧
          (Standard.table.bindAll bindings).Follows (Standard.bindings ++ bindings)) ∧
      (∀ (table : ConventionTable) (history : List (Opcode × Convention)),
        table.Follows history → ∀ (opcode : Opcode) (convention : Convention),
          (∀ replaced, (table.rebind opcode convention).1 = some replaced ↔
            LastBound history opcode.code replaced) ∧
          (table.rebind opcode convention).2.Follows (history ++ [(opcode, convention)])) ∧
      ∀ left right : Instr, left.Twins right →
        left.same right = true ∧ left.fingerprint = right.fingerprint ∧
          ∀ table, left.AgreeUnder table right := by
  refine ⟨fun bindings => ⟨?_, ?_⟩, fun table history follows opcode convention => ⟨?_, ?_⟩,
    fun left right twins => ?_⟩
  · exact (Tracks.empty.bindAll bindings).follows
  · exact ((Tracks.empty.bindAll Standard.bindings).bindAll bindings).follows
  · exact follows.replaced_iff opcode convention
  · exact (follows.tracks.rebind opcode convention).follows
  · exact ⟨twins.same, twins.fingerprint_eq, twins.agreeUnder⟩

/-- The standard opcode 1 bound anew under three names, one after another, and two
instructions that differ in such a name, with no table to know them. -/
theorem ConventionTable.last_binding_counts_alias :
    let bindings : List (Opcode × Convention) :=
      [(⟨1, "Copy"⟩, .derived .shuffle), (⟨900, "Trap"⟩, .fixed [[]] true),
        (⟨1, "Alias"⟩, .derived .patch)]
    let rebound := (Standard.table.bindAll bindings).rebind ⟨1, "Third"⟩ (.derived .call)
    let left : Instr := ⟨⟨1, "Copy"⟩, [.special], .none⟩
    let right : Instr := ⟨⟨1, "Alias"⟩, [.special], .none⟩
    (Standard.table.bindAll bindings).convention Standard.move = .ok (.derived .patch) ∧
      rebound.1 = some (.derived .patch) ∧
      rebound.2.convention Standard.move = .ok (.derived .call) ∧
      (empty.bindAll bindings).size = 2 ∧ left.Twins right ∧ left ≠ right ∧
      left.same right = true ∧ right.effects empty = .error (.unrecognized "Alias") ∧
      left.effects empty = .error (.unrecognized "Copy") := by
  intro bindings rebound left right
  obtain ⟨follows, binding, alike⟩ := last_binding_counts
  have last : LastBound (Standard.bindings ++ bindings) 1 (.derived .patch) :=
    ⟨Standard.bindings ++ bindings.take 2, ⟨1, "Alias"⟩, [], by simp [bindings], rfl,
      fun _ member => by cases member⟩
  have third : LastBound (Standard.bindings ++ bindings ++ [(⟨1, "Third"⟩, .derived .call)]) 1
      (.derived .call) :=
    ⟨Standard.bindings ++ bindings, ⟨1, "Third"⟩, [], rfl, rfl, fun _ member => by cases member⟩
  obtain ⟨replaced, later⟩ :=
    binding _ _ (follows bindings).2 ⟨1, "Third"⟩ (.derived .call)
  have twins : left.Twins right := ⟨rfl, rfl, rfl⟩
  have unknown : right.effects empty = .error (.unrecognized "Alias") := rfl
  obtain ⟨same, _, agree⟩ := alike left right twins
  refine ⟨((follows bindings).2.convention_eq_ok_iff Standard.move _).mpr last,
    (replaced _).mpr last, (later.convention_eq_ok_iff Standard.move _).mpr third,
    (follows bindings).1.size_eq.trans (by decide), twins, by decide, same, unknown, ?_⟩
  rw [(agree empty).effects, unknown]
  rfl

end BackendIR
