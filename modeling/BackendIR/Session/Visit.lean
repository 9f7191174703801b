import BackendIR.Substitution

/-!
# Visits

The ways to look at one instruction: list its sites, show its operands, or apply
rules to its operands or to the parts of one kind. A visit tells what it has seen,
also when it is refused, and gives the instruction after it.
-/

namespace BackendIR

/-- A way to look at an instruction. -/
inductive Visit where
  /-- List the sites. -/
  | sites
  /-- Show the operands. -/
  | operands
  /-- Apply rules to operands in place. -/
  | replace (rules : List (Rule Operand))
  /-- Apply rules to operands as parts. -/
  | wholes (rules : List (Rule Operand))
  /-- Apply rules to values. -/
  | temps (rules : List (Rule Temp))
  /-- Apply rules to registers. -/
  | registers (rules : List (Rule Register))
  /-- Apply rules to slots of stack storage. -/
  | slots (rules : List (Rule SlotId))

/-- Something that a visit has seen. -/
inductive Sighting where
  | site (site : Site)
  | operand (thing : Operand) (access? : Option Access)
  | temp (thing : Temp) (access? : Option Access)
  | register (thing : Register) (access? : Option Access)
  | slot (thing : SlotId) (access? : Option Access)
  deriving DecidableEq

namespace Visit

/-- Offers as sightings of one kind. -/
def sightings {α : Type} (kind : α → Option Access → Sighting)
    (visited : List (α × Option Access) × Except Fault Instr) :
    List Sighting × Except Fault Instr :=
  (visited.1.map fun offer => kind offer.1 offer.2, visited.2)

/-- Look at an instruction. -/
def run (visit : Visit) (instr : Instr) (table : ConventionTable) :
    List Sighting × Except Fault Instr :=
  match visit with
  | .sites =>
      let survey := instr.survey table
      (survey.sites.map Sighting.site, survey.outcome.map fun _ => instr)
  | .operands =>
      let (seen, outcome) := instr.sightings table
      (seen.map fun sighting => Sighting.operand sighting.1 (some sighting.2),
        outcome.map fun _ => instr)
  | .replace rules => sightings .operand (Substitution.applyToOperands rules instr table)
  | .wholes rules => sightings .operand (Substitution.applyToParts rules instr table)
  | .temps rules => sightings .temp (Substitution.applyToParts rules instr table)
  | .registers rules => sightings .register (Substitution.applyToParts rules instr table)
  | .slots rules => sightings .slot (Substitution.applyToParts rules instr table)

end Visit

end BackendIR
