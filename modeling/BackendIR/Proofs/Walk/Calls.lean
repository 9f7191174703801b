import BackendIR.Proofs.Walk.Coverage
import BackendIR.Standard

/-!
# Calls by their signature

The operands of a call are the callee's address, the result unless there is none, and the
arguments. So the signature tells how many operands there have to be, and for each of them a
position, a role, and the bank and width of its type (`BackendIR.Signature.ListedBy`). A call is
refused for the first of three reasons: it has no signature, it has another number of operands, or
an argument has a type without values. A call on a cold path is surveyed as any other call, with
all uses cold (`BackendIR.Instr.surveyBy_coldCall`).
-/

namespace BackendIR

namespace ValueType

variable {type : ValueType} {role : Role} {access : Access}

/-- A value of a type is accessed in the bank and width of the type. -/
theorem access?_eq_some_iff :
    type.access? role = some access ↔
      access.role = role ∧ type.bank? = some access.bank ∧ type.width? = some access.width := by
  obtain ⟨ownRole, bank, width⟩ := access
  cases type <;> simp [access?, bank?, width?, eq_comm]

/-- Every type but void can be accessed. -/
theorem access?_eq_none_iff : type.access? role = none ↔ type = .void := by
  cases type <;> simp [access?, bank?, width?]

end ValueType

namespace Survey

/-- A value of a type is accessed at a position, in the type's bank and width. -/
def HasValue (survey : Survey) (position : Nat) (role : Role) (type : ValueType) : Prop :=
  ∃ bank width, type.bank? = some bank ∧ type.width? = some width ∧
    survey.sites[position]? = some ⟨position, role, bank, width⟩

/-- The survey with every access on a cold path. -/
def onColdPath (survey : Survey) : Survey :=
  { survey with
    sites := survey.sites.map fun site => { site with access := site.access.onColdPath } }

private theorem getElem?_ofAccesses (accesses : List Access) (position : Nat) :
    (ofAccesses accesses).sites[position]? = accesses[position]?.map (Site.mk position) := by
  rw [sites_ofAccesses, List.getElem?_mapIdx]

private theorem onColdPath_ofAccesses (accesses : List Access) :
    (ofAccesses accesses).onColdPath = ofAccesses (accesses.map Access.onColdPath) := by
  simp only [onColdPath, ofAccesses, listed, done, List.append_nil, Survey.mk.injEq, and_true]
  apply List.ext_getElem?
  intro position
  simp only [List.getElem?_map, List.getElem?_mapIdx, Option.map_map]
  rfl

/-- An access that fits a type is one of a value of this type. -/
theorem hasValue_ofAccesses {accesses : List Access} {position : Nat} {role : Role}
    {type : ValueType} {access : Access} (there : accesses[position]? = some access)
    (typed : type.access? role = some access) :
    (ofAccesses accesses).HasValue position role type := by
  obtain ⟨rfl, bank, width⟩ := ValueType.access?_eq_some_iff.mp typed
  refine ⟨access.bank, access.width, bank, width, ?_⟩
  rw [getElem?_ofAccesses, there]
  rfl

end Survey

namespace Signature

variable {signature : Signature} {types : List ValueType} {accesses : List Access}

/-- The survey lists what the signature asks for: the callee's address, the result unless it
is `void`, and behind them the arguments in order. -/
structure ListedBy (signature : Signature) (survey : Survey) : Prop where
  length_eq : survey.sites.length = signature.arity
  callee : survey.sites[0]? = some ⟨0, .use, .gp, .w64⟩
  result : signature.result ≠ .void → survey.HasValue 1 .define signature.result
  argument : ∀ (k : Nat) (type : ValueType), signature.arguments[k]? = some type →
    survey.HasValue ((if signature.result = .void then 1 else 2) + k) .use type

/-- Arguments have accesses exactly if each one has, and then in their order. -/
theorem argumentAccesses_eq_ok_iff :
    argumentAccesses types = .ok accesses ↔ types.map (·.access? .use) = accesses.map some := by
  induction types generalizing accesses with
  | nil => cases accesses <;> simp [argumentAccesses]
  | cons type rest ih =>
      rw [argumentAccesses, List.map_cons]
      cases known : type.access? .use with
      | none => cases accesses <;> simp
      | some access =>
          refine ⟨fun found => ?_, fun same => ?_⟩
          · obtain ⟨others, later, rfl⟩ := exists_of_map_eq_ok found
            rw [List.map_cons, ih.mp later]
          · cases accesses with
            | nil => cases same
            | cons first others =>
                obtain ⟨here, later⟩ := List.cons.inj same
                cases here
                rw [ih.mpr later]
                rfl

/-- The access to an argument. -/
theorem getElem?_argumentAccesses (found : argumentAccesses types = .ok accesses) {k : Nat}
    {type : ValueType} (there : types[k]? = some type) :
    ∃ access, accesses[k]? = some access ∧ type.access? .use = some access := by
  have entries := congrArg (fun list => list[k]?) (argumentAccesses_eq_ok_iff.mp found)
  simp only [List.getElem?_map, there, Option.map_some] at entries
  obtain ⟨access, listed, typed⟩ := Option.map_eq_some_iff.mp entries.symm
  exact ⟨access, listed, typed.symm⟩

/-- Where the arguments start. -/
theorem length_front (signature : Signature) :
    (calleeAccess :: (signature.result.access? .define).toList).length =
      if signature.result = .void then 1 else 2 := by
  cases signature.result <;> rfl

/-- The accesses of a signature list the callee, the result and the arguments. -/
theorem listedBy_ofAccesses (found : signature.accesses = .ok accesses) :
    signature.ListedBy (.ofAccesses accesses) := by
  have count := length_accesses found
  obtain ⟨arguments, typed, rfl⟩ := exists_of_map_eq_ok found
  refine ⟨?_, ?_, fun valued => ?_, fun k type there => ?_⟩
  · rw [Survey.sites_ofAccesses, List.length_mapIdx, count]
  · rw [Survey.getElem?_ofAccesses]
    rfl
  · cases known : signature.result.access? .define with
    | none => exact absurd (ValueType.access?_eq_none_iff.mp known) valued
    | some access => exact Survey.hasValue_ofAccesses rfl known
  · -- The arguments stand behind the callee and the result, however many these are.
    obtain ⟨access, listed, known⟩ := getElem?_argumentAccesses typed there
    refine Survey.hasValue_ofAccesses ?_ known
    rw [← length_front, List.getElem?_append_right (Nat.le_add_right _ _), Nat.add_sub_cancel_left,
      listed]

/-- A signature has accesses exactly if no argument is void; a void result has none. -/
theorem exists_accesses_iff :
    (∃ accesses, signature.accesses = .ok accesses) ↔ .void ∉ signature.arguments := by
  cases typed : argumentAccesses signature.arguments with
  | ok arguments =>
      refine iff_of_true ⟨_, congrArg (Except.map _) typed⟩ fun void => ?_
      cases typed.symm.trans (argumentAccesses_eq_error_iff.mpr ⟨void, rfl⟩)
  | error reason =>
      refine iff_of_false ?_ (not_not.mpr (argumentAccesses_eq_error_iff.mp typed).1)
      rintro ⟨accesses, found⟩
      obtain ⟨arguments, listed, -⟩ := exists_of_map_eq_ok found
      cases typed.symm.trans listed

/-- A call only uses and defines. -/
theorem role_of_mem_accesses (found : signature.accesses = .ok accesses) {access : Access}
    (member : access ∈ accesses) : access.role = .use ∨ access.role = .define := by
  obtain ⟨arguments, typed, rfl⟩ := exists_of_map_eq_ok found
  rcases List.mem_append.mp member with front | argument
  · rcases List.mem_cons.mp front with rfl | result
    · exact .inl rfl
    · have known := Option.mem_toList.mp result
      exact .inr (ValueType.access?_eq_some_iff.mp known).1
  · have listed : some access ∈ arguments.map some := List.mem_map_of_mem argument
    rw [← argumentAccesses_eq_ok_iff.mp typed] at listed
    obtain ⟨type, -, known⟩ := List.mem_map.mp listed
    exact .inl (ValueType.access?_eq_some_iff.mp known).1

end Signature

namespace Instr

variable {instr : Instr} {signature : Signature} {accesses : List Access}

/-- A call has the accesses of its signature, if there are as many operands. -/
theorem callAccesses_eq_ok_iff :
    instr.callAccesses = .ok accesses ↔
      ∃ signature, instr.metadata = .call signature ∧
        instr.operands.length = signature.arity ∧ signature.accesses = .ok accesses := by
  unfold callAccesses
  cases instr.metadata with
  | none => simp
  | patch described effects => simp
  | call signature =>
      by_cases agrees : instr.operands.length = signature.arity
      · simp [agrees]
      · simp [agrees]

/-- A survey by a list of accesses is accepted exactly if there is one. -/
theorem outcome_surveyAll_eq_ok_iff {accesses : Except Malformation (List Access)} :
    (instr.surveyAll accesses).outcome = .ok () ↔ ∃ found, accesses = .ok found := by
  cases accesses with
  | ok found => exact iff_of_true rfl ⟨found, rfl⟩
  | error reason => simp [surveyAll, Survey.refused]

/-- **Accepted calls.** A call is accepted exactly if it has a signature without void arguments
and as many operands as the signature asks for. -/
theorem outcome_surveyBy_call_eq_ok_iff :
    (instr.surveyBy .call).outcome = .ok () ↔
      ∃ signature, instr.metadata = .call signature ∧ .void ∉ signature.arguments ∧
        instr.operands.length = signature.arity := by
  rw [surveyBy, outcome_surveyAll_eq_ok_iff]
  simp only [callAccesses_eq_ok_iff, ← Signature.exists_accesses_iff]
  refine ⟨fun found => ?_, fun found => ?_⟩
  · obtain ⟨accesses, signature, signed, agrees, typed⟩ := found
    exact ⟨signature, signed, ⟨accesses, typed⟩, agrees⟩
  · obtain ⟨signature, signed, ⟨accesses, typed⟩, agrees⟩ := found
    exact ⟨accesses, signature, signed, agrees, typed⟩

/-- What an accepted call lists. -/
theorem surveyBy_call_of_ok (signed : instr.metadata = .call signature)
    (accepted : (instr.surveyBy .call).outcome = .ok ()) :
    ∃ accesses, signature.accesses = .ok accesses ∧
      instr.surveyBy .call = .ofAccesses accesses := by
  obtain ⟨accesses, found⟩ := outcome_surveyAll_eq_ok_iff.mp accepted
  obtain ⟨other, again, -, typed⟩ := callAccesses_eq_ok_iff.mp found
  cases signed.symm.trans again
  exact ⟨accesses, typed, congrArg instr.surveyAll found⟩

/-- **Refused calls.** A malformed call lists no site, and the fault gives the reason. -/
theorem surveyBy_call_of_malformed {reason : Malformation} (cause : instr.Malformed .call reason) :
    instr.surveyBy .call = .refused (.malformed instr.opcode.name reason) :=
  congrArg instr.surveyAll ((callAccesses_eq_error_iff .call).mpr cause)

private theorem surveyAll_cooled (instr : Instr) (accesses : Except Malformation (List Access)) :
    instr.surveyAll (accesses.map (·.map Access.onColdPath)) =
      (instr.surveyAll accesses).onColdPath := by
  cases accesses with
  | ok found => exact (Survey.onColdPath_ofAccesses found).symm
  | error reason => rfl

/-- **Cold calls.** A cold call is surveyed as a call is, with each access moved to the cold path.
-/
theorem surveyBy_coldCall (instr : Instr) :
    instr.surveyBy .coldCall = (instr.surveyBy .call).onColdPath :=
  instr.surveyAll_cooled instr.callAccesses

/-- A call uses or defines each of its operands and does nothing else with it. -/
theorem role_of_mem_surveyBy_call {site : Site} (member : site ∈ (instr.surveyBy .call).sites) :
    site.access.role = .use ∨ site.access.role = .define := by
  cases found : instr.callAccesses with
  | error reason =>
      rw [surveyBy, found] at member
      cases member
  | ok accesses =>
      obtain ⟨signature, -, -, typed⟩ := callAccesses_eq_ok_iff.mp found
      refine Signature.role_of_mem_accesses typed ?_
      rw [surveyBy, found] at member
      rw [← Survey.accesses_ofAccesses accesses]
      exact List.mem_map_of_mem member

/-- No use of a cold call is warm. -/
theorem not_isWarmUse_of_mem_surveyBy_coldCall {site : Site}
    (member : site ∈ (instr.surveyBy .coldCall).sites) : site.access.role.isWarmUse = false := by
  rw [surveyBy_coldCall] at member
  obtain ⟨warm, listed, rfl⟩ := List.mem_map.mp member
  -- A role that both uses and defines would stay warm, but calls have none.
  change warm.access.role.onColdPath.isWarmUse = false
  rcases role_of_mem_surveyBy_call listed with use | define
  · rw [use]
    rfl
  · rw [define]
    rfl

/-- **Calls are surveyed by their signature.** A call is accepted exactly if it has a signature
with no `void` among the argument types, and as many operands as the callee, the result if there
is one, and the arguments. Then the callee's address is used first, the result is defined next, and
the arguments are used in order, each in the bank and width of its type. A refused call has
no sites; a missing signature is named before a wrong number of operands, and that before the
first `void` argument. A cold call differs in that its uses are cold, so none of them is warm. -/
theorem call_survey_by_signature (instr : Instr) :
    (∀ (table : ConventionTable) (strategy : Strategy),
        table.convention? instr.opcode = some (.derived strategy) →
        instr.survey table = instr.surveyBy strategy) ∧
      ((instr.surveyBy .call).outcome = .ok () ↔
        ∃ signature : Signature, instr.metadata = .call signature ∧
          .void ∉ signature.arguments ∧
          instr.operands.length =
            1 + (if signature.result = .void then 0 else 1) + signature.arguments.length) ∧
      (∀ signature : Signature, instr.metadata = .call signature →
        (instr.surveyBy .call).outcome = .ok () →
        signature.ListedBy (instr.surveyBy .call)) ∧
      ((∀ signature : Signature, instr.metadata ≠ .call signature) →
        instr.surveyBy .call = .refused (.malformed instr.opcode.name .missingSignature)) ∧
      (∀ signature : Signature, instr.metadata = .call signature →
        instr.operands.length ≠ signature.arity →
        instr.surveyBy .call =
          .refused (.malformed instr.opcode.name
            (.operandCount signature.arity instr.operands.length))) ∧
      (∀ (signature : Signature) (earlier later : List ValueType),
        instr.metadata = .call signature → instr.operands.length = signature.arity →
        signature.arguments = earlier ++ .void :: later → .void ∉ earlier →
        instr.surveyBy .call =
          .refused (.malformed instr.opcode.name (.notAnOperandType .void))) ∧
      (instr.surveyBy .coldCall).outcome = (instr.surveyBy .call).outcome ∧
      (instr.surveyBy .coldCall).sites =
        (instr.surveyBy .call).sites.map
          (fun site => ⟨site.position, site.access.role.onColdPath, site.access.bank,
            site.access.width⟩) ∧
      ∀ site ∈ (instr.surveyBy .coldCall).sites, site.access.role.isWarmUse = false := by
  refine ⟨fun table strategy bound => survey_of_bound bound, outcome_surveyBy_call_eq_ok_iff,
    fun signature signed accepted => ?_, fun unsigned => ?_, fun signature signed differs => ?_,
    fun signature earlier later signed agrees split _ => ?_, ?_, ?_,
    fun site => not_isWarmUse_of_mem_surveyBy_coldCall⟩
  · obtain ⟨accesses, typed, same⟩ := surveyBy_call_of_ok signed accepted
    rw [same]
    exact Signature.listedBy_ofAccesses typed
  · exact surveyBy_call_of_malformed (.missingSignature .call unsigned)
  · exact surveyBy_call_of_malformed (.operandCount .call signed differs)
  · have void : .void ∈ signature.arguments := by simp [split]
    exact surveyBy_call_of_malformed (.voidArgument .call signed agrees void)
  · rw [surveyBy_coldCall]
    rfl
  · rw [surveyBy_coldCall]
    rfl

/-- A call with a result and two arguments, also on a cold path; and the same operands with no
signature, with one of another arity that has a `void` argument too, and with one of the right arity
that has two. -/
theorem call_survey_by_signature_outcomes :
    let value : Operand := .temp (.virtual .gp 0)
    let call (metadata : Metadata) : Instr :=
      ⟨Standard.call, [value, value, value, value], metadata⟩
    let mixed : Signature := ⟨.double, [.int32, .float]⟩
    let short : Signature := ⟨.void, [.void]⟩
    let spoiled : Signature := ⟨.void, [.int64, .void, .void]⟩
    let table := ConventionTable.empty.bind Standard.call (.derived .call)
    let first : Site := ⟨0, .coldUse, .gp, .w64⟩
    (table.convention? Standard.call = some (.derived .call) ∧
        (call (.call mixed)).survey table = (call (.call mixed)).surveyBy .call) ∧
      (((call (.call mixed)).surveyBy .call).outcome = .ok () ∧
        mixed.ListedBy ((call (.call mixed)).surveyBy .call)) ∧
      (call .none).surveyBy .call = .refused (.malformed "CCall" .missingSignature) ∧
      (call (.call short)).surveyBy .call = .refused (.malformed "CCall" (.operandCount 2 4)) ∧
      (call (.call spoiled)).surveyBy .call =
        .refused (.malformed "CCall" (.notAnOperandType .void)) ∧
      first ∈ ((call (.call mixed)).surveyBy .coldCall).sites ∧
        first.access.role.isWarmUse = false := by
  intro value call mixed short spoiled table first
  have accepted : ((call (.call mixed)).surveyBy .call).outcome = .ok () := rfl
  have cold : first ∈ ((call (.call mixed)).surveyBy .coldCall).sites := .head _
  obtain ⟨bound, -, listed, -, -, -, -, -, cooled⟩ := call_survey_by_signature (call (.call mixed))
  obtain ⟨-, -, -, unsigned, -⟩ := call_survey_by_signature (call .none)
  obtain ⟨-, -, -, -, counted, -⟩ := call_survey_by_signature (call (.call short))
  obtain ⟨-, -, -, -, -, void, -⟩ := call_survey_by_signature (call (.call spoiled))
  refine ⟨⟨rfl, bound table .call rfl⟩, ⟨accepted, listed mixed rfl accepted⟩,
    unsigned ?_, counted short rfl ?_, void spoiled [.int64] [.void] rfl rfl rfl ?_,
    cold, cooled first cold⟩
  · intro signature signed
    cases signed
  · decide
  · decide

end Instr

end BackendIR
