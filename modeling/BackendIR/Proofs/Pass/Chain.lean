import Mathlib.Data.List.Chain
import BackendIR.Pass

/-!
# Chains of passes

Passes are run one after another, each on what the one before has left, until one is
refused (`BackendIR.Pass.chain`). A pass may do anything to the state and may refuse for
reasons of its own. All the same every report brackets its pass, every accepted pass leaves
a procedure whose references all exist, and a refusal has one of two known reasons
(`BackendIR.Pass.Leg.Bracketed`); so the fingerprints of a chain fit together end to end
(`BackendIR.Pass.chain_brackets_every_pass`).
-/

namespace BackendIR

variable {σ ε α : Type}

/-! ### One pass -/

section

variable (procedure : σ → Procedure) (refusal : Fault → ε) (name : String)
  {body : ExceptT ε (StateM σ) α} {before after : σ}

/-- The procedure is not even checked if the pass itself refuses. -/
theorem run_runPass_of_error {reason : ε} (refused : body.run.run before = (.error reason, after)) :
    (runPass procedure refusal name body).run.run before = (.error reason, after) := by
  change (body >>= _ : ExceptT ε (StateM σ) (Report × α)).run.run before = _
  rw [ExceptT.run_bind, StateT.run_bind, refused]
  rfl

/-- A pass whose body succeeds is reported with the fingerprints around it, unless the check finds
a dangling reference. -/
theorem run_runPass_of_ok {value : α} (done : body.run.run before = (.ok value, after)) :
    (runPass procedure refusal name body).run.run before =
      match (procedure after).check with
      | .ok () =>
          (.ok (⟨name, (procedure before).fingerprint, (procedure after).fingerprint⟩, value),
            after)
      | .error fault => (.error (refusal fault), after) := by
  change (body >>= _ : ExceptT ε (StateM σ) (Report × α)).run.run before = _
  rw [ExceptT.run_bind, StateT.run_bind, done]
  change (match (procedure after).check with
    | .ok () => (pure _ : ExceptT ε (StateM σ) (Report × α))
    | .error fault => throw (refusal fault)).run.run after = _
  cases (procedure after).check <;> rfl

end

/-- A named edit of a state, which gives a value or is refused. -/
structure Pass (σ ε α : Type) where
  name : String
  body : ExceptT ε (StateM σ) α

namespace Pass

/-- One pass of a chain, with the state it found, how it ended and the state it left. -/
structure Leg (σ ε α : Type) where
  pass : Pass σ ε α
  before : σ
  outcome : Except ε (Report × α)
  after : σ

variable (procedure : σ → Procedure) (refusal : Fault → ε)

/-- Run one pass. -/
def leg (pass : Pass σ ε α) (before : σ) : Leg σ ε α :=
  let (outcome, after) := (runPass procedure refusal pass.name pass.body).run.run before
  ⟨pass, before, outcome, after⟩

/-- What holds of one pass: it keeps its edits however it ends; an accepted one is reported
with the fingerprints around it and leaves no dangling reference; a refusal is the pass's
own if it has one, and else names what the check has found. -/
structure Leg.Bracketed (leg : Leg σ ε α) : Prop where
  edits_stay : leg.after = (leg.pass.body.run.run leg.before).2
  accepted : ∀ report value, leg.outcome = .ok (report, value) →
    report.pass = leg.pass.name ∧
      report.early = (procedure leg.before).fingerprint ∧
      report.late = (procedure leg.after).fingerprint ∧
      (procedure leg.after).check = .ok ()
  refused_iff : ∀ reason, leg.outcome = .error reason ↔
    (leg.pass.body.run.run leg.before).1 = .error reason ∨
      (∃ value, (leg.pass.body.run.run leg.before).1 = .ok value) ∧
        ∃ fault, (procedure leg.after).check = .error fault ∧ reason = refusal fault

/-- Every run of a pass is bracketed by fingerprints and the check. -/
theorem leg_bracketed (pass : Pass σ ε α) (before : σ) :
    (pass.leg procedure refusal before).Bracketed procedure refusal := by
  obtain ⟨name, body⟩ := pass
  unfold leg
  cases ran : body.run.run before with
  | mk outcome after =>
      cases outcome with
      | error reason =>
          rw [run_runPass_of_error procedure refusal name ran]
          refine ⟨by rw [ran], fun _ _ accepted => ?_, fun other => ?_⟩
          · cases accepted
          · simp [ran]
      | ok value =>
          rw [run_runPass_of_ok procedure refusal name ran]
          cases checked : (procedure after).check with
          | ok _ =>
              refine ⟨by rw [ran], fun report result accepted => ?_, fun other => ?_⟩
              · cases accepted
                exact ⟨rfl, rfl, rfl, checked⟩
              · simp [ran, checked]
          | error fault =>
              refine ⟨by rw [ran], fun _ _ accepted => ?_, fun other => ?_⟩
              · cases accepted
              · simp [ran, checked, eq_comm]

/-! ### Chains -/

/-- Run passes in order, up to the first refusal. -/
def chain : List (Pass σ ε α) → σ → List (Leg σ ε α)
  | [], _ => []
  | pass :: rest, before =>
      let leg := pass.leg procedure refusal before
      match leg.outcome with
      | .ok _ => leg :: chain rest leg.after
      | .error _ => [leg]

/-- The reports of the accepted passes. -/
def reports (legs : List (Leg σ ε α)) : List Report :=
  legs.filterMap fun leg => leg.outcome.toOption.map Prod.fst

private theorem reports_cons_of_ok {leg : Leg σ ε α} {report : Report} {value : α}
    (accepted : leg.outcome = .ok (report, value)) (legs : List (Leg σ ε α)) :
    reports (leg :: legs) = report :: reports legs := by
  simp [reports, accepted, Except.toOption]

private theorem reports_of_error {leg : Leg σ ε α} {reason : ε}
    (refused : leg.outcome = .error reason) :
    reports [leg] = [] := by
  simp [reports, refused, Except.toOption]

/-- **One step of a chain.** It goes on from where an accepted pass has left the state, and
ends with a refused one. -/
theorem chain_cons_cases (pass : Pass σ ε α) (rest : List (Pass σ ε α)) (before : σ) :
    let leg := pass.leg procedure refusal before
    (∃ result, leg.outcome = .ok result ∧
        chain procedure refusal (pass :: rest) before =
          leg :: chain procedure refusal rest leg.after) ∨
      ∃ reason, leg.outcome = .error reason ∧
        chain procedure refusal (pass :: rest) before = [leg] := by
  intro leg
  cases ended : leg.outcome with
  | ok result => exact .inl ⟨result, rfl, by simp only [chain, leg, ended]⟩
  | error reason => exact .inr ⟨reason, rfl, by simp only [chain, leg, ended]⟩

/-- The first pass of a chain finds the state that the chain starts from. -/
theorem before_head?_chain {passes : List (Pass σ ε α)} {start : σ} {leg : Leg σ ε α}
    (first : leg ∈ (chain procedure refusal passes start).head?) : leg.before = start := by
  cases passes with
  | nil => cases first
  | cons pass rest =>
      rcases chain_cons_cases procedure refusal pass rest start with
        ⟨_, _, run⟩ | ⟨_, _, run⟩ <;>
      · rw [run] at first
        cases first
        rfl

/-- Every pass of a chain is bracketed by fingerprints and the check. -/
theorem bracketed_of_mem_chain {passes : List (Pass σ ε α)} {start : σ} {leg : Leg σ ε α}
    (member : leg ∈ chain procedure refusal passes start) :
    leg.Bracketed procedure refusal := by
  induction passes generalizing start with
  | nil => cases member
  | cons pass rest ih =>
      have here := pass.leg_bracketed procedure refusal start
      rcases chain_cons_cases procedure refusal pass rest start with
        ⟨_, _, run⟩ | ⟨_, _, run⟩
      · rw [run] at member
        rcases List.mem_cons.mp member with rfl | later
        · exact here
        · exact ih later
      · rw [run] at member
        rw [List.mem_singleton.mp member]
        exact here

/-- Only the last pass of a chain can be refused, and each finds what the one before left. -/
theorem isChain_chain (passes : List (Pass σ ε α)) (start : σ) :
    (chain procedure refusal passes start).IsChain fun leg next =>
      (∃ result, leg.outcome = .ok result) ∧ next.before = leg.after := by
  induction passes generalizing start with
  | nil => exact .nil
  | cons pass rest ih =>
      rcases chain_cons_cases procedure refusal pass rest start with
        ⟨result, accepted, run⟩ | ⟨_, _, run⟩
      · rw [run, List.isChain_cons]
        exact ⟨fun next first => ⟨⟨result, accepted⟩, before_head?_chain procedure refusal first⟩,
          ih _⟩
      · rw [run]
        exact .singleton _

/-- The passes that are run are the first ones, and all of them unless one is refused. -/
theorem map_pass_chain (passes : List (Pass σ ε α)) (start : σ) :
    (chain procedure refusal passes start).map Leg.pass <+: passes ∧
      ((∀ leg ∈ chain procedure refusal passes start, ∃ result, leg.outcome = .ok result) →
        (chain procedure refusal passes start).map Leg.pass = passes) := by
  induction passes generalizing start with
  | nil => exact ⟨List.prefix_refl _, fun _ => rfl⟩
  | cons pass rest ih =>
      rcases chain_cons_cases procedure refusal pass rest start with
        ⟨_, _, run⟩ | ⟨reason, refused, run⟩
      · obtain ⟨first, whole⟩ := ih (pass.leg procedure refusal start).after
        rw [run, List.map_cons]
        refine ⟨(List.prefix_cons_inj pass).mpr first, fun accepted => ?_⟩
        exact congrArg _ (whole fun leg member => accepted leg (.tail _ member))
      · rw [run]
        refine ⟨⟨rest, rfl⟩, fun accepted => ?_⟩
        obtain ⟨result, accepted⟩ := accepted _ (.head _)
        rw [refused] at accepted
        cases accepted

/-- The first report starts with the fingerprint that the chain starts from. -/
theorem early_head?_reports_chain {passes : List (Pass σ ε α)} {start : σ} {report : Report}
    (first : report ∈ (reports (chain procedure refusal passes start)).head?) :
    report.early = (procedure start).fingerprint := by
  cases passes with
  | nil => cases first
  | cons pass rest =>
      rcases chain_cons_cases procedure refusal pass rest start with
        ⟨⟨found, value⟩, accepted, run⟩ | ⟨_, refused, run⟩
      · rw [run, reports_cons_of_ok accepted] at first
        cases first
        exact ((pass.leg_bracketed procedure refusal start).accepted _ _ accepted).2.1
      · rw [run, reports_of_error refused] at first
        cases first

/-- Consecutive reports fit together: a pass finds what the one before has left. -/
theorem isChain_reports_chain (passes : List (Pass σ ε α)) (start : σ) :
    (reports (chain procedure refusal passes start)).IsChain fun report next =>
      report.late = next.early := by
  induction passes generalizing start with
  | nil => exact .nil
  | cons pass rest ih =>
      rcases chain_cons_cases procedure refusal pass rest start with
        ⟨⟨report, value⟩, accepted, run⟩ | ⟨_, refused, run⟩
      · obtain ⟨_, _, late, _⟩ :=
          (pass.leg_bracketed procedure refusal start).accepted _ _ accepted
        rw [run, reports_cons_of_ok accepted, List.isChain_cons]
        refine ⟨fun next first => ?_, ih _⟩
        rw [late, early_head?_reports_chain procedure refusal first]
      · rw [run, reports_of_error refused]
        exact .nil

end Pass

/-! ### Comparing -/

namespace Report

/-- A report is confirmed exactly by the two fingerprints that it gives. -/
theorem compare_eq_ok_iff (report : Report) (early late : UInt32) :
    report.compare early late = .ok () ↔ early = report.early ∧ late = report.late := by
  unfold compare
  by_cases first : early = report.early
  · by_cases second : late = report.late
    · simp [first, second]
    · simp [first, second, Ne.symm second]
  · simp [first, Ne.symm first]

/-- A wrong fingerprint before the pass is reported whatever comes after it. -/
theorem compare_of_early_ne {report : Report} {early : UInt32} (other : early ≠ report.early)
    (late : UInt32) :
    report.compare early late = .error (.mismatch report.pass .early early report.early) := by
  simp [compare, Ne.symm other]

/-- A wrong fingerprint after the pass is reported if the one before it is right. -/
theorem compare_of_late_ne {report : Report} {late : UInt32} (other : late ≠ report.late) :
    report.compare report.early late =
      .error (.mismatch report.pass .late late report.late) := by
  simp [compare, Ne.symm other]

end Report

/-- **Chains of passes.** Whatever the passes do, they are run in order from the start, each
on what the one before has left, up to the first refusal; each is bracketed, so that every
report ends with the fingerprint that the next one begins with. A report agrees with a pair
of fingerprints exactly if it is its own, and complains of the early one first. -/
theorem Pass.chain_brackets_every_pass (procedure : σ → Procedure) (refusal : Fault → ε)
    (passes : List (Pass σ ε α)) (start : σ) :
    let legs := chain procedure refusal passes start
    (legs.map Leg.pass <+: passes ∧
        ((∀ leg ∈ legs, ∃ result, leg.outcome = .ok result) → legs.map Leg.pass = passes)) ∧
      (∀ leg ∈ legs.head?, leg.before = start) ∧
      (legs.IsChain fun leg next =>
        (∃ result, leg.outcome = .ok result) ∧ next.before = leg.after) ∧
      (∀ leg ∈ legs, leg.Bracketed procedure refusal) ∧
      ((reports legs).IsChain fun report next => report.late = next.early) ∧
      ∀ (report : Report) (early late : UInt32),
        (report.compare early late = .ok () ↔ early = report.early ∧ late = report.late) ∧
          (early ≠ report.early → report.compare early late =
            .error (.mismatch report.pass .early early report.early)) ∧
          (early = report.early → late ≠ report.late → report.compare early late =
            .error (.mismatch report.pass .late late report.late)) := by
  intro legs
  refine ⟨map_pass_chain procedure refusal passes start,
    fun leg first => before_head?_chain procedure refusal first,
    isChain_chain procedure refusal passes start,
    fun leg member => bracketed_of_mem_chain procedure refusal member,
    isChain_reports_chain procedure refusal passes start, fun report early late => ?_⟩
  refine ⟨report.compare_eq_ok_iff early late, fun other => ?_, fun same other => ?_⟩
  · exact Report.compare_of_early_ne other late
  · rw [same]
    exact Report.compare_of_late_ne other

/-- A chain in which the second pass leaves an edge to nowhere: its edit stays, it is refused
by the check, and the third pass is not run. -/
theorem Pass.chain_brackets_every_pass_stray_edge :
    let grow : Pass Procedure Fault Unit := ⟨"grow", modify (·.addBlock .one)⟩
    let stray : Pass Procedure Fault Unit := ⟨"stray", modify fun procedure =>
      procedure.setBlock ⟨0⟩ ⟨⟨0⟩, .one, [], [⟨⟨9⟩, .one⟩], []⟩⟩
    let legs := chain id id [grow, stray, grow] Procedure.empty
    legs.map (fun leg => (leg.pass.name, leg.outcome.isOk)) = [("grow", true), ("stray", false)] ∧
      legs.map (fun leg => leg.after.blocks.map Block.targets) = [[[]], [[⟨9⟩]]] ∧
      (∀ leg ∈ legs, leg.Bracketed id id) ∧
      (reports legs).IsChain fun report next => report.late = next.early := by
  intro grow stray legs
  obtain ⟨_, _, _, bracketed, fitting, _⟩ :=
    chain_brackets_every_pass id id [grow, stray, grow] Procedure.empty
  exact ⟨by decide, by decide, bracketed, fitting⟩

end BackendIR
