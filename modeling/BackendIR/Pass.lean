import BackendIR.Procedure.References

/-!
# Passes

A pass edits a procedure. Running one takes the fingerprint before and after the
edit and checks all references in between, so that a client can compare both
fingerprints with recorded ones. A refused pass keeps what it has edited.
-/

namespace BackendIR

/-- The fingerprints around one run of a pass. -/
structure Report where
  pass : String
  early : UInt32
  late : UInt32
  deriving DecidableEq

namespace Report

/-- Whether the pass changed the fingerprint. -/
def changed (report : Report) : Bool :=
  report.early != report.late

/-- Compare with expected fingerprints, the early one first. -/
def compare (report : Report) (early late : UInt32) : Except Fault Unit :=
  if report.early != early then .error (.mismatch report.pass .early early report.early)
  else if report.late != late then .error (.mismatch report.pass .late late report.late)
  else .ok ()

end Report

variable {σ ε α : Type}

/-- Run a pass in a state that holds a procedure. A refusal by the pass itself comes
before a dangling reference that it left behind. -/
def runPass (procedure : σ → Procedure) (refusal : Fault → ε) (name : String)
    (body : ExceptT ε (StateM σ) α) : ExceptT ε (StateM σ) (Report × α) := do
  let early := (procedure (← get)).fingerprint
  let result ← body
  let edited := procedure (← get)
  match edited.check with
  | .ok () => return (⟨name, early, edited.fingerprint⟩, result)
  | .error fault => throw (refusal fault)

end BackendIR
