import BackendIR.Instr.Survey
import BackendIR.Operand.Part

/-!
# Walks over instructions

A reading walk shows the operands at the surveyed sites. An updating walk surveys
the whole instruction first, so that a refused survey changes nothing and no
visitor runs; then it visits the sites in order and stores what the visitor
returns. The accesses are those of the instruction before the walk.
-/

namespace BackendIR.Instr

/-- The operands at the surveyed sites with their accesses, and the outcome of the
survey. What was listed before a refusal is shown. -/
def sightings (instr : Instr) (table : ConventionTable) :
    List (Operand × Access) × Except Fault Unit :=
  let survey := instr.survey table
  (survey.sites.filterMap fun site =>
      instr.operands[site.position]?.map (·, site.access),
    survey.outcome)

variable {σ : Type}

/-- Update the operands at the given sites, one after another. -/
def updateSites (visitor : Operand → Access → StateM σ Operand) :
    List Site → List Operand → StateM σ (List Operand)
  | [], operands => return operands
  | site :: rest, operands =>
      match operands[site.position]? with
      | some operand => do
          let replacement ← visitor operand site.access
          updateSites visitor rest (operands.set site.position replacement)
      | none => updateSites visitor rest operands

/-- Update the operands at the surveyed sites. -/
def updateOperands (instr : Instr) (table : ConventionTable)
    (visitor : Operand → Access → StateM σ Operand) : StateM σ (Except Fault Instr) :=
  let survey := instr.survey table
  match survey.outcome with
  | .error fault => return .error fault
  | .ok () => do
      let operands ← updateSites visitor survey.sites instr.operands
      return .ok { instr with operands }

/-- Offer every part of a kind at the surveyed sites to a visitor and put its
replacements in place. -/
def updateParts {α : Type} [Part α] (instr : Instr) (table : ConventionTable)
    (visitor : Visitor σ α) : StateM σ (Except Fault Instr) :=
  instr.updateOperands table fun operand access => do
    return (← Part.visit operand access visitor).getD operand

end BackendIR.Instr
