import BackendIR.Convention

/-!
# Surveys

A survey lists the operand positions of an instruction that its convention
accesses, in order, and how. It can fail; a shuffle then still lists the complete
moves before the one it refuses, and every other convention lists nothing.
-/

namespace BackendIR

/-- An operand position and how it is accessed. -/
structure Site where
  position : Nat
  access : Access
  deriving DecidableEq

/-- The sites found, and whether the survey came to its end. -/
structure Survey where
  sites : List Site
  outcome : Except Fault Unit

namespace Survey

/-- A survey that ends at once. -/
def done : Survey := ⟨[], .ok ()⟩

/-- A survey that is refused before anything is listed. -/
def refused (fault : Fault) : Survey := ⟨[], .error fault⟩

/-- A survey that lists some sites and then goes on as another one. -/
def listed (sites : List Site) (rest : Survey) : Survey :=
  ⟨sites ++ rest.sites, rest.outcome⟩

/-- The survey of all positions from the first on, with the given accesses. -/
def ofAccesses (accesses : List Access) : Survey :=
  listed (accesses.mapIdx Site.mk) done

end Survey

/-- The bank of a move: general purpose if both ends can be, else floating point. -/
def Operand.moveBank (source target : Operand) : Bank :=
  if source.isGP && target.isGP then .gp else .fp

/-- The survey of parallel moves from a position on. Each complete group of three
operands is a move; one or two operands at the end are not part of the shuffle. -/
def Survey.moves (opcode : Opcode) (position : Nat) : List Operand → Survey
  | source :: target :: tag :: rest =>
      match tag.width? with
      | some width =>
          let bank := source.moveBank target
          listed
            [⟨position, .use, bank, width⟩, ⟨position + 1, .define, bank, width⟩,
              ⟨position + 2, .use, .gp, .w8⟩]
            (moves opcode (position + 3) rest)
      | none => refused (.malformed opcode.name (.notAWidth tag))
  | _ => done

namespace ValueType

/-- The access to a value of a type; there is none to `void`. -/
def access? (type : ValueType) (role : Role) : Option Access :=
  match type.bank?, type.width? with
  | some bank, some width => some ⟨role, bank, width⟩
  | _, _ => none

end ValueType

namespace Signature

/-- How many operands a call has: the callee, a result unless it is `void`, and
the arguments. -/
def arity (signature : Signature) : Nat :=
  1 + (if signature.result = .void then 0 else 1) + signature.arguments.length

/-- The access to the callee's address. -/
def calleeAccess : Access := ⟨.use, .gp, Width.pointer⟩

/-- The accesses to the arguments, or the first type that has no values. -/
def argumentAccesses : List ValueType → Except Malformation (List Access)
  | [] => .ok []
  | type :: rest =>
      match type.access? .use with
      | some access => (argumentAccesses rest).map (access :: ·)
      | none => .error (.notAnOperandType type)

/-- The accesses of a call in operand order. -/
def accesses (signature : Signature) : Except Malformation (List Access) :=
  (argumentAccesses signature.arguments).map fun arguments =>
    calleeAccess :: (signature.result.access? .define).toList ++ arguments

end Signature

namespace Instr

/-- The accesses that an instruction's patch metadata gives. -/
def patchAccesses (instr : Instr) : Except Malformation (List Access) :=
  match instr.metadata with
  | .patch accesses _ =>
      if accesses.length = instr.operands.length then .ok accesses
      else .error (.accessCount accesses.length instr.operands.length)
  | _ => .error .missingPatch

/-- The accesses that an instruction's call signature gives. -/
def callAccesses (instr : Instr) : Except Malformation (List Access) :=
  match instr.metadata with
  | .call signature =>
      if instr.operands.length = signature.arity then signature.accesses
      else .error (.operandCount signature.arity instr.operands.length)
  | _ => .error .missingSignature

/-- The survey of an instruction whose accesses come all at once or not at all. -/
def surveyAll (instr : Instr) (accesses : Except Malformation (List Access)) : Survey :=
  match accesses with
  | .ok accesses => .ofAccesses accesses
  | .error reason => .refused (.malformed instr.opcode.name reason)

/-- The survey of an instruction by a strategy, whatever its opcode. -/
def surveyBy (instr : Instr) : Strategy → Survey
  | .shuffle => .moves instr.opcode 0 instr.operands
  | .patch => instr.surveyAll instr.patchAccesses
  | .call => instr.surveyAll instr.callAccesses
  | .coldCall => instr.surveyAll (instr.callAccesses.map (·.map Access.onColdPath))

/-- The survey of an instruction by a convention. Of several fixed forms with as
many operands as the instruction has, the first one counts. -/
def surveyUnder (instr : Instr) : Convention → Survey
  | .fixed forms _ =>
      match forms.find? (fun form => form.length == instr.operands.length) with
      | some form => .ofAccesses form
      | none => .refused (.noForm instr.opcode.name instr.operands.length)
  | .derived strategy => instr.surveyBy strategy

/-- The survey of an instruction by the convention of its opcode. -/
def survey (instr : Instr) (table : ConventionTable) : Survey :=
  match table.convention instr.opcode with
  | .ok convention => instr.surveyUnder convention
  | .error fault => .refused fault

/-- Whether an instruction has effects that show neither in its operands nor in
control flow, by a strategy and whatever its opcode. -/
def effectsBy (instr : Instr) : Strategy → Except Fault Bool
  | .shuffle => .ok false
  | .patch =>
      match instr.metadata with
      | .patch _ effects => .ok effects
      | _ => .error (.malformed instr.opcode.name .missingPatch)
  | .call | .coldCall => .ok true

/-- Whether an instruction has effects that show neither in its operands nor in
control flow, by the convention of its opcode. -/
def effects (instr : Instr) (table : ConventionTable) : Except Fault Bool :=
  match table.convention instr.opcode with
  | .ok (.fixed _ effects) => .ok effects
  | .ok (.derived strategy) => instr.effectsBy strategy
  | .error fault => .error fault

end Instr

end BackendIR
