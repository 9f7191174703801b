import Mathlib.Data.List.Forall2
import BackendIR.Proofs.Walk.Update

/-!
# What a survey covers

An accepted survey covers all operands of its instruction; only a shuffle leaves
out the one or two operands behind its last complete group. A refused survey
covers nothing; only a shuffle has listed the groups before the first one that does
not end in a width (`BackendIR.Survey.moves_cases`). The causes of refusals are
stated without the survey (`BackendIR.Instr.Refused`), and a survey is refused by a
fault exactly when there is such a cause
(`BackendIR.Instr.outcome_survey_eq_error_iff`).
-/

namespace BackendIR

private theorem map_eq_error_iff {ε α β : Type} {result : Except ε α} {change : α → β}
    {refusal : ε} :
    result.map change = .error refusal ↔ result = .error refusal := by
  cases result <;> simp [Except.map]

/-! ### Shuffles -/

/-- The first group of three operands that ends in something other than a width. -/
structure FirstBadTag (operands : List Operand) (group : Nat) (tag : Operand) : Prop where
  here : operands[3 * group + 2]? = some tag
  bad : ∀ width, tag ≠ .width width
  before : ∀ earlier < group, ∃ width, operands[3 * earlier + 2]? = some (.width width)

/-- One more group in front, which ends in a width. -/
theorem FirstBadTag.behind {rest : List Operand} {group : Nat} {tag : Operand}
    (first : FirstBadTag rest group tag) (source target : Operand) (width : Width) :
    FirstBadTag (source :: target :: .width width :: rest) (group + 1) tag where
  here := first.here
  bad := first.bad
  before := by
    intro earlier below
    cases earlier with
    | zero => exact ⟨width, rfl⟩
    | succ earlier => exact first.before earlier (Nat.lt_of_succ_lt_succ below)

/-- No group is good before the first bad one and bad at the same time. -/
theorem FirstBadTag.unique {operands : List Operand} {group other : Nat} {tag otherTag : Operand}
    (first : FirstBadTag operands group tag) (second : FirstBadTag operands other otherTag) :
    group = other ∧ tag = otherTag := by
  have notBefore {group other : Nat} {tag otherTag : Operand}
      (first : FirstBadTag operands group tag) (second : FirstBadTag operands other otherTag) :
      ¬ group < other := by
    intro below
    obtain ⟨width, good⟩ := second.before group below
    exact first.bad width (Option.some.inj (first.here.symm.trans good))
  have same : group = other :=
    Nat.le_antisymm (Nat.le_of_not_lt (notBefore second first))
      (Nat.le_of_not_lt (notBefore first second))
  subst same
  exact ⟨rfl, Option.some.inj (first.here.symm.trans second.here)⟩

private theorem Operand.width?_eq_none_iff {operand : Operand} :
    operand.width? = none ↔ ∀ width, operand ≠ .width width := by
  cases operand <;> simp [width?]

/-- Only a width operand has a width, its own. -/
theorem Operand.width?_eq_some_iff {operand : Operand} {width : Width} :
    operand.width? = some width ↔ operand = .width width := by
  cases operand <;> simp [width?]

/-- Operands with the same widths among them have the same first bad group. -/
theorem FirstBadTag.of_tags {operands others : List Operand} {group : Nat} {tag : Operand}
    (first : FirstBadTag operands group tag)
    (tags : operands.map Operand.width? = others.map Operand.width?) :
    ∃ tag, FirstBadTag others group tag := by
  have told (position : Nat) :
      operands[position]?.map Operand.width? = others[position]?.map Operand.width? := by
    rw [← List.getElem?_map, tags, List.getElem?_map]
  have bad := told (3 * group + 2)
  rw [first.here, Option.map_some, Operand.width?_eq_none_iff.mpr first.bad, eq_comm,
    Option.map_eq_some_iff] at bad
  obtain ⟨other, here, missing⟩ := bad
  refine ⟨other, here, Operand.width?_eq_none_iff.mp missing, fun earlier below => ?_⟩
  obtain ⟨width, good⟩ := first.before earlier below
  have same := told (3 * earlier + 2)
  rw [good, eq_comm, Option.map_some, Option.map_eq_some_iff] at same
  obtain ⟨operand, there, tagged⟩ := same
  exact ⟨width, Operand.width?_eq_some_iff.mp tagged ▸ there⟩

/-- Where no complete group is left, there are fewer than three operands. -/
theorem length_lt_of_no_group {operands : List Operand}
    (short : ∀ source target tag rest, operands ≠ source :: target :: tag :: rest) :
    operands.length < 3 := by
  rcases operands with _ | ⟨source, _ | ⟨target, _ | ⟨tag, rest⟩⟩⟩
  · decide
  · simp
  · simp
  · exact absurd rfl (short source target tag rest)

namespace Survey

/-- A shuffle comes to its end after all complete groups, or stops at the first bad
tag, having listed the groups before it. -/
theorem moves_cases (opcode : Opcode) (position : Nat) (operands : List Operand) :
    ((moves opcode position operands).outcome = .ok () ∧
        (moves opcode position operands).sites.length = 3 * (operands.length / 3) ∧
        ∀ group tag, ¬ FirstBadTag operands group tag) ∨
      ∃ group tag, FirstBadTag operands group tag ∧
        (moves opcode position operands).outcome =
          .error (.malformed opcode.name (.notAWidth tag)) ∧
        (moves opcode position operands).sites.length = 3 * group := by
  fun_induction moves opcode position operands with
  | case1 position source target tag rest width found bank ih =>
      obtain rfl : tag = .width width := Operand.width?_eq_some_iff.mp found
      rcases ih with ⟨accepted, complete, good⟩ | ⟨group, bad, first, refused, listed⟩
      · refine .inl ⟨accepted, ?_, ?_⟩
        · simp only [Survey.listed, List.length_append, List.length_cons, List.length_nil, complete]
          omega
        · intro group bad first
          cases group with
          | zero => exact first.bad width (Option.some.inj first.here).symm
          | succ group =>
              exact good group bad ⟨first.here, first.bad, fun earlier below =>
                first.before (earlier + 1) (Nat.succ_lt_succ below)⟩
      · refine .inr ⟨group + 1, bad, first.behind source target width, refused, ?_⟩
        simp only [Survey.listed, List.length_append, List.length_cons, List.length_nil, listed]
        omega
  | case2 position source target tag rest missing =>
      have bad := Operand.width?_eq_none_iff.mp missing
      exact .inr ⟨0, tag, ⟨rfl, bad, fun _ below => absurd below (Nat.not_lt_zero _)⟩, rfl, rfl⟩
  | case3 operands position short =>
      -- There is no group left to be good or bad.
      have few := length_lt_of_no_group short
      refine .inl ⟨rfl, ?_, fun group tag first => ?_⟩
      · rw [Nat.div_eq_of_lt few]
        rfl
      · obtain ⟨inside, -⟩ := List.getElem?_eq_some_iff.mp first.here
        omega

/-- An accepted survey of a shuffle covers all complete groups. -/
theorem length_sites_moves {opcode : Opcode} {position : Nat} {operands : List Operand}
    (accepted : (moves opcode position operands).outcome = .ok ()) :
    (moves opcode position operands).sites.length = 3 * (operands.length / 3) := by
  rcases moves_cases opcode position operands with
    ⟨-, complete, -⟩ | ⟨group, tag, -, refused, -⟩
  · exact complete
  · cases accepted.symm.trans refused

end Survey

/-! ### Causes of refusals -/

/-- A call, on a cold path or not. -/
inductive Strategy.IsCall : Strategy → Prop where
  | call : IsCall .call
  | coldCall : IsCall .coldCall

/-- Why a strategy can make no sense of an instruction. -/
inductive Instr.Malformed (instr : Instr) : Strategy → Malformation → Prop where
  | notAWidth {group : Nat} {tag : Operand} (first : FirstBadTag instr.operands group tag) :
      Malformed instr .shuffle (.notAWidth tag)
  | missingPatch (undescribed : ∀ accesses effects, instr.metadata ≠ .patch accesses effects) :
      Malformed instr .patch .missingPatch
  | accessCount {accesses : List Access} {effects : Bool}
      (described : instr.metadata = .patch accesses effects)
      (differs : accesses.length ≠ instr.operands.length) :
      Malformed instr .patch (.accessCount accesses.length instr.operands.length)
  | missingSignature {strategy : Strategy} (calls : strategy.IsCall)
      (unsigned : ∀ signature, instr.metadata ≠ .call signature) :
      Malformed instr strategy .missingSignature
  | operandCount {strategy : Strategy} (calls : strategy.IsCall) {signature : Signature}
      (signed : instr.metadata = .call signature)
      (differs : instr.operands.length ≠ signature.arity) :
      Malformed instr strategy (.operandCount signature.arity instr.operands.length)
  | voidArgument {strategy : Strategy} (calls : strategy.IsCall) {signature : Signature}
      (signed : instr.metadata = .call signature)
      (agrees : instr.operands.length = signature.arity) (void : .void ∈ signature.arguments) :
      Malformed instr strategy (.notAnOperandType .void)

/-- Why the survey of an instruction is refused. -/
inductive Instr.Refused (instr : Instr) (table : ConventionTable) : Fault → Prop where
  | unbound (missing : table.convention? instr.opcode = none) :
      Refused instr table (.unrecognized instr.opcode.name)
  | noForm {forms : List (List Access)} {effects : Bool}
      (bound : table.convention? instr.opcode = some (.fixed forms effects))
      (absent : ∀ form ∈ forms, form.length ≠ instr.operands.length) :
      Refused instr table (.noForm instr.opcode.name instr.operands.length)
  | malformed {strategy : Strategy} {reason : Malformation}
      (bound : table.convention? instr.opcode = some (.derived strategy))
      (cause : instr.Malformed strategy reason) :
      Refused instr table (.malformed instr.opcode.name reason)

/-- Arguments have no accesses exactly if one of them is void, and the reason says so. -/
theorem Signature.argumentAccesses_eq_error_iff {types : List ValueType} {reason : Malformation} :
    argumentAccesses types = .error reason ↔ .void ∈ types ∧ reason = .notAnOperandType .void := by
  induction types with
  | nil => simp [argumentAccesses]
  | cons type rest ih =>
      by_cases void : type = .void
      · subst void
        constructor
        · intro refused
          cases refused
          exact ⟨List.mem_cons_self, rfl⟩
        · rintro ⟨-, rfl⟩
          rfl
      · obtain ⟨access, known⟩ : ∃ access, type.access? .use = some access := by
          cases type <;> first | exact absurd rfl void | exact ⟨_, rfl⟩
        rw [argumentAccesses, known, List.mem_cons, or_iff_right (Ne.symm void), ← ih]
        exact map_eq_error_iff

namespace Instr

variable {instr : Instr} {table : ConventionTable} {reason : Malformation} {fault : Fault}

/-- The accesses of a patch are missing exactly if the patch is malformed. -/
theorem patchAccesses_eq_error_iff :
    instr.patchAccesses = .error reason ↔ instr.Malformed .patch reason := by
  constructor
  · intro refused
    unfold patchAccesses at refused
    split at refused
    · rename_i described
      split at refused
      · cases refused
      · rename_i differs
        cases refused
        exact .accessCount described differs
    · rename_i undescribed
      cases refused
      exact .missingPatch undescribed
  · intro cause
    unfold patchAccesses
    cases cause with
    | missingPatch undescribed =>
        split
        · rename_i described
          exact absurd described (undescribed _ _)
        · rfl
    | accessCount described differs => rw [described]; exact if_neg differs
    | missingSignature calls _ => nomatch calls
    | operandCount calls _ _ => nomatch calls
    | voidArgument calls _ _ _ => nomatch calls

/-- The accesses of a call are missing exactly if the call is malformed. -/
theorem callAccesses_eq_error_iff {strategy : Strategy} (calls : strategy.IsCall) :
    instr.callAccesses = .error reason ↔ instr.Malformed strategy reason := by
  have typed {signature : Signature} : signature.accesses = .error reason ↔
      .void ∈ signature.arguments ∧ reason = .notAnOperandType .void := by
    rw [← Signature.argumentAccesses_eq_error_iff]
    exact map_eq_error_iff
  constructor
  · intro refused
    unfold callAccesses at refused
    split at refused
    · rename_i signed
      split at refused
      · rename_i agrees
        obtain ⟨void, rfl⟩ := typed.mp refused
        exact .voidArgument calls signed agrees void
      · rename_i differs
        cases refused
        exact .operandCount calls signed differs
    · rename_i unsigned
      cases refused
      exact .missingSignature calls unsigned
  · intro cause
    unfold callAccesses
    cases cause with
    | notAWidth _ | missingPatch _ | accessCount _ _ => nomatch calls
    | missingSignature _ unsigned =>
        split
        · rename_i signed
          exact absurd signed (unsigned _)
        · rfl
    | operandCount _ signed differs => rw [signed]; exact if_neg differs
    | voidArgument _ signed agrees void =>
        rw [signed]
        exact (if_pos agrees).trans (typed.mpr ⟨void, rfl⟩)

/-- A survey without accesses is refused for the reason that they are missing. -/
theorem outcome_surveyAll_eq_error_iff {accesses : Except Malformation (List Access)} :
    (instr.surveyAll accesses).outcome = .error fault ↔
      ∃ reason, accesses = .error reason ∧ fault = .malformed instr.opcode.name reason := by
  cases accesses with
  | ok found => simp [surveyAll, Survey.ofAccesses, Survey.listed, Survey.done]
  | error reason => simp [surveyAll, Survey.refused, eq_comm]

/-- A shuffle is malformed exactly if some complete group does not end in a width, and the first
of these is the reason. -/
theorem malformed_shuffle_iff :
    instr.Malformed .shuffle reason ↔
      ∃ group tag, FirstBadTag instr.operands group tag ∧ reason = .notAWidth tag := by
  constructor
  · intro cause
    cases cause with
    | notAWidth first => exact ⟨_, _, first, rfl⟩
    | missingSignature calls _ => nomatch calls
    | operandCount calls _ _ => nomatch calls
    | voidArgument calls _ _ _ => nomatch calls
  · rintro ⟨group, tag, first, rfl⟩
    exact .notAWidth first

/-- A strategy refuses an instruction exactly when there is a cause, and names it. -/
theorem outcome_surveyBy_eq_error_iff {strategy : Strategy} :
    (instr.surveyBy strategy).outcome = .error fault ↔
      ∃ reason, instr.Malformed strategy reason ∧
        fault = .malformed instr.opcode.name reason := by
  cases strategy with
  | shuffle =>
      simp only [surveyBy, malformed_shuffle_iff]
      rcases Survey.moves_cases instr.opcode 0 instr.operands with
        ⟨accepted, -, good⟩ | ⟨group, tag, first, refused, -⟩
      · rw [accepted]
        constructor
        · intro refused
          cases refused
        · rintro ⟨reason, ⟨group, tag, first, rfl⟩, -⟩
          exact absurd first (good group tag)
      · rw [refused]
        constructor
        · intro same
          cases same
          exact ⟨_, ⟨group, tag, first, rfl⟩, rfl⟩
        · rintro ⟨reason, ⟨other, otherTag, again, rfl⟩, rfl⟩
          rw [(first.unique again).2]
  | patch => simp only [surveyBy, outcome_surveyAll_eq_error_iff, patchAccesses_eq_error_iff]
  | call => simp only [surveyBy, outcome_surveyAll_eq_error_iff, callAccesses_eq_error_iff .call]
  | coldCall =>
      simp only [surveyBy, outcome_surveyAll_eq_error_iff, map_eq_error_iff,
        callAccesses_eq_error_iff .coldCall]

/-- An unbound opcode is refused as unrecognized, and for no other reason. -/
theorem refused_iff_of_unbound (missing : table.convention? instr.opcode = none) :
    instr.Refused table fault ↔ fault = .unrecognized instr.opcode.name := by
  constructor
  · intro cause
    cases cause with
    | unbound _ => rfl
    | noForm bound _ => cases missing.symm.trans bound
    | malformed bound _ => cases missing.symm.trans bound
  · rintro rfl
    exact .unbound missing

/-- An opcode with fixed forms is refused exactly if no form has as many operands. -/
theorem refused_iff_of_fixed {forms : List (List Access)} {effects : Bool}
    (bound : table.convention? instr.opcode = some (.fixed forms effects)) :
    instr.Refused table fault ↔ (∀ form ∈ forms, form.length ≠ instr.operands.length) ∧
      fault = .noForm instr.opcode.name instr.operands.length := by
  constructor
  · intro cause
    cases cause with
    | unbound missing => cases bound.symm.trans missing
    | malformed other _ => cases bound.symm.trans other
    | noForm other absent =>
        cases bound.symm.trans other
        exact ⟨absent, rfl⟩
  · rintro ⟨absent, rfl⟩
    exact .noForm bound absent

/-- An opcode with a derived convention is refused exactly if the instruction is malformed for
it. -/
theorem refused_iff_of_derived {strategy : Strategy}
    (bound : table.convention? instr.opcode = some (.derived strategy)) :
    instr.Refused table fault ↔
      ∃ reason, instr.Malformed strategy reason ∧
        fault = .malformed instr.opcode.name reason := by
  constructor
  · intro cause
    cases cause with
    | unbound missing => cases bound.symm.trans missing
    | noForm other _ => cases bound.symm.trans other
    | malformed other cause =>
        cases bound.symm.trans other
        exact ⟨_, cause, rfl⟩
  · rintro ⟨reason, cause, rfl⟩
    exact .malformed bound cause

/-- **Refusals have causes.** A survey ends in a fault exactly if one of the causes of a refusal
gives this fault. -/
theorem outcome_survey_eq_error_iff :
    (instr.survey table).outcome = .error fault ↔ instr.Refused table fault := by
  cases bound : table.convention? instr.opcode with
  | none =>
      rw [survey_of_unbound bound, refused_iff_of_unbound bound]
      exact ⟨fun same => (Except.error.inj same).symm, fun same => congrArg Except.error same.symm⟩
  | some convention =>
      rw [survey_of_bound bound]
      cases convention with
      | fixed forms effects =>
          rw [refused_iff_of_fixed bound]
          rcases instr.surveyUnder_fixed_cases forms effects with
            ⟨earlier, form, later, rfl, matching, -, same⟩ | ⟨absent, same⟩
          · have present : form ∈ earlier ++ form :: later := by simp
            rw [same]
            exact ⟨fun refused => (nomatch refused),
              fun ⟨absent, _⟩ => absurd matching (absent form present)⟩
          · rw [same]
            exact ⟨fun refused => ⟨absent, (Except.error.inj refused).symm⟩,
              fun ⟨_, named⟩ => congrArg Except.error named.symm⟩
      | derived strategy =>
          rw [surveyUnder, outcome_surveyBy_eq_error_iff, refused_iff_of_derived bound]

/-! ### Acceptance

Whether a survey is accepted depends on the operands only through their number and
the widths among them. -/

/-- A malformed instruction stays malformed, if for another reason, with other operands that have
the same widths in the same places. -/
theorem Malformed.of_tags {operands : List Operand} {strategy : Strategy}
    (tags : operands.map Operand.width? = instr.operands.map Operand.width?)
    (cause : { instr with operands }.Malformed strategy reason) :
    ∃ reason, instr.Malformed strategy reason := by
  have count : operands.length = instr.operands.length := by
    simpa using congrArg List.length tags
  cases cause with
  | notAWidth first =>
      obtain ⟨tag, again⟩ := first.of_tags tags
      exact ⟨_, .notAWidth again⟩
  | missingPatch undescribed => exact ⟨_, .missingPatch undescribed⟩
  | accessCount described differs => exact ⟨_, .accessCount described (count ▸ differs)⟩
  | missingSignature calls unsigned => exact ⟨_, .missingSignature calls unsigned⟩
  | operandCount calls signed differs => exact ⟨_, .operandCount calls signed (count ▸ differs)⟩
  | voidArgument calls signed agrees void =>
      exact ⟨_, .voidArgument calls signed (count ▸ agrees) void⟩

/-- A refused instruction stays refused with other operands that have the same widths in the same
places. -/
theorem Refused.of_tags {operands : List Operand}
    (tags : operands.map Operand.width? = instr.operands.map Operand.width?)
    (refused : { instr with operands }.Refused table fault) :
    ∃ fault, instr.Refused table fault := by
  have count : operands.length = instr.operands.length := by
    simpa using congrArg List.length tags
  cases refused with
  | unbound missing => exact ⟨_, .unbound missing⟩
  | noForm bound absent => exact ⟨_, .noForm bound (count ▸ absent)⟩
  | malformed bound cause =>
      obtain ⟨reason, again⟩ := cause.of_tags tags
      exact ⟨_, .malformed bound again⟩

/-- An accepted instruction stays accepted if the same widths stay in the same places. -/
theorem outcome_survey_of_tags {operands : List Operand}
    (tags : operands.map Operand.width? = instr.operands.map Operand.width?)
    (accepted : (instr.survey table).outcome = .ok ()) :
    ({ instr with operands }.survey table).outcome = .ok () := by
  cases outcome : ({ instr with operands }.survey table).outcome with
  | ok done => rfl
  | error fault =>
      obtain ⟨other, refused⟩ := (outcome_survey_eq_error_iff.mp outcome).of_tags tags
      cases accepted.symm.trans (outcome_survey_eq_error_iff.mpr refused)

/-! ### Coverage -/

/-- How many operands an accepted survey covers. -/
theorem length_sites_of_ok (accepted : (instr.survey table).outcome = .ok ()) :
    (instr.survey table).sites.length =
      if table.convention? instr.opcode = some (.derived .shuffle)
      then 3 * (instr.operands.length / 3) else instr.operands.length := by
  by_cases shuffles : table.convention? instr.opcode = some (.derived .shuffle)
  · rw [if_pos shuffles]
    rw [survey_of_bound shuffles] at accepted ⊢
    exact Survey.length_sites_moves accepted
  · rw [if_neg shuffles]
    rcases survey_cases shuffles with ⟨found, complete, same⟩ | ⟨fault, same⟩
    · rw [same, Survey.sites_ofAccesses, List.length_mapIdx, complete]
    · rw [same] at accepted
      cases accepted

/-- What a refused survey has listed. -/
theorem sites_of_error (refused : (instr.survey table).outcome = .error fault) :
    if table.convention? instr.opcode = some (.derived .shuffle)
    then ∃ group tag, FirstBadTag instr.operands group tag ∧
      (instr.survey table).sites.length = 3 * group
    else (instr.survey table).sites = [] := by
  by_cases shuffles : table.convention? instr.opcode = some (.derived .shuffle)
  · rw [if_pos shuffles]
    rw [survey_of_bound shuffles] at refused ⊢
    rcases Survey.moves_cases instr.opcode 0 instr.operands with
      ⟨accepted, -, -⟩ | ⟨group, tag, first, -, listed⟩
    · cases accepted.symm.trans refused
    · exact ⟨group, tag, first, listed⟩
  · rw [if_neg shuffles]
    rcases survey_cases shuffles with ⟨found, -, same⟩ | ⟨fault, same⟩
    · rw [same] at refused
      cases refused
    · rw [same]
      rfl

/-- A walk shows the operand at each site, with its access. -/
theorem forall₂_sightings (instr : Instr) (table : ConventionTable) :
    List.Forall₂
      (fun site shown => instr.operands[site.position]? = some shown.1 ∧ shown.2 = site.access)
      (instr.survey table).sites (instr.sightings table).1 := by
  rw [List.forall₂_iff_get]
  refine ⟨(instr.length_sightings table).symm, fun k inside shown => ?_⟩
  obtain ⟨operand, found, listed⟩ := getElem?_sightings (List.getElem?_eq_getElem inside)
  have here : (instr.sightings table).1.get ⟨k, shown⟩ = (operand, _) :=
    Option.some.inj ((List.getElem?_eq_getElem shown).symm.trans listed)
  rw [here]
  exact ⟨found, rfl⟩

/-- **Surveys cover all operands or none.** An accepted survey lists all positions in
order, those of incomplete groups of a shuffle apart, and under fixed forms the accesses
are those of the first form that fits. A survey is refused exactly for one of the stated
causes, and then it has listed nothing, the groups of a shuffle before the first bad one
apart. So a reading walk finds an operand at each site; an updating walk does so at the
sites of an accepted survey and goes to none of a refused one. -/
theorem survey_covers_all_or_none (instr : Instr) (table : ConventionTable) :
    ((instr.survey table).outcome = .ok () →
        (instr.survey table).sites.map Site.position =
          List.range (if table.convention? instr.opcode = some (.derived .shuffle)
            then 3 * (instr.operands.length / 3) else instr.operands.length) ∧
        ∀ forms effects, table.convention? instr.opcode = some (.fixed forms effects) →
          ∃ earlier form later, forms = earlier ++ form :: later ∧
            form.length = instr.operands.length ∧
            (∀ other ∈ earlier, other.length ≠ instr.operands.length) ∧
            (instr.survey table).sites.map Site.access = form) ∧
      (∀ fault, (instr.survey table).outcome = .error fault ↔ instr.Refused table fault) ∧
      (∀ fault, (instr.survey table).outcome = .error fault →
        if table.convention? instr.opcode = some (.derived .shuffle)
        then ∃ group tag, FirstBadTag instr.operands group tag ∧
          (instr.survey table).sites.map Site.position = List.range (3 * group)
        else (instr.survey table).sites = []) ∧
      List.Forall₂
        (fun site shown => instr.operands[site.position]? = some shown.1 ∧ shown.2 = site.access)
        (instr.survey table).sites (instr.sightings table).1 ∧
      ∀ (σ : Type) (visitor : Operand → Access → StateM σ Operand) (state : σ),
        ((instr.survey table).outcome = .ok () →
          List.Forall₂
            (fun site call =>
              instr.operands[site.position]? = some call.thing ∧ call.access = site.access)
            (instr.survey table).sites
            ((instr.updateOperands table (recording visitor)).run ([], state)).2.1) ∧
        ∀ fault, (instr.survey table).outcome = .error fault →
          ((instr.updateOperands table (recording visitor)).run ([], state)).2.1 = [] := by
  have positions := (instr.survey_aligned table).positions
  refine ⟨fun accepted => ⟨?_, ?_⟩, fun _ => outcome_survey_eq_error_iff, ?_,
    instr.forall₂_sightings table, ?_⟩
  · rw [positions, length_sites_of_ok accepted]
  · intro forms effects bound
    rw [survey_of_bound bound] at accepted ⊢
    rcases instr.surveyUnder_fixed_cases forms effects with
      ⟨earlier, form, later, split, matching, skipped, same⟩ | ⟨-, same⟩
    · refine ⟨earlier, form, later, split, matching, skipped, ?_⟩
      rw [same, Survey.accesses_ofAccesses]
    · rw [same] at accepted
      cases accepted
  · intro fault refused
    have listed := sites_of_error refused
    by_cases shuffles : table.convention? instr.opcode = some (.derived .shuffle)
    · rw [if_pos shuffles] at listed ⊢
      obtain ⟨group, tag, first, count⟩ := listed
      exact ⟨group, tag, first, by rw [positions, count]⟩
    · rw [if_neg shuffles] at listed ⊢
      exact listed
  · intro σ visitor state
    constructor
    · intro accepted
      rw [run_updateOperands accepted]
      simp only [run_ask_recording, List.nil_append]
      have offered := map_offer_zipWith (length_ask visitor (instr.sightings table).1 state)
      have shown := instr.forall₂_sightings table
      rw [← offered, List.forall₂_map_right_iff] at shown
      exact shown
    · intro fault refused
      rw [run_updateOperands_of_error refused]

/-- A move with two forms of its arity, of which the first counts, and a shuffle whose
second group is bad. -/
theorem survey_covers_all_or_none_move_and_shuffle :
    let move : Opcode := ⟨1, "Move"⟩
    let shuffle : Opcode := ⟨9, "Shuffle"⟩
    let read : Access := ⟨.use, .gp, .w64⟩
    let write : Access := ⟨.define, .gp, .w64⟩
    let table := (ConventionTable.empty.bind shuffle (.derived .shuffle)).bind move
      (.fixed [[read], [read, write], [write, read]] false)
    let value : Operand := .temp (.virtual .gp 0)
    let moved : Instr := ⟨move, [value, value], .none⟩
    let shuffled : Instr :=
      ⟨shuffle, [value, value, .width .w32, value, value, .special, value], .none⟩
    let fault : Fault := .malformed "Shuffle" (.notAWidth .special)
    ((moved.survey table).outcome = .ok () ∧
        (moved.survey table).sites.map Site.position = [0, 1]) ∧
      (shuffled.survey table).outcome = .error fault ∧ shuffled.Refused table fault ∧
        ∃ group tag, FirstBadTag shuffled.operands group tag ∧
          (shuffled.survey table).sites.map Site.position = List.range (3 * group) := by
  intro move shuffle read write table value moved shuffled fault
  have accepted : (moved.survey table).outcome = .ok () := rfl
  have refused : (shuffled.survey table).outcome = .error fault := rfl
  obtain ⟨positions, -⟩ := (survey_covers_all_or_none moved table).1 accepted
  obtain ⟨-, causes, listed, -⟩ := survey_covers_all_or_none shuffled table
  exact ⟨⟨accepted, positions.trans rfl⟩, refused, (causes fault).mp refused, listed fault refused⟩

end Instr

end BackendIR
