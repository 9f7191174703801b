import BackendIR.Proofs.Procedure.WellFormed
import BackendIR.Proofs.Walk.Parts

/-!
# Rewriting within a scope

Walks over instructions store only what their visitors supply. If that lies within
a scope, an instruction of the scope is rewritten to one of the scope, whatever the
visitor does (`BackendIR.Rewriting.run_within`). Visits by rules are such walks
(`BackendIR.Visit.run_within`).
-/

namespace BackendIR

variable {σ α : Type} {scope : Scope}

/-! ### Operands of a scope -/

private theorem Operand.temp_within_iff {value : Temp} :
    (Operand.temp value).Within scope ↔ value.Within scope := by
  simp [Operand.within_iff, Operand.slot?, Operand.temps]

/-- An address lies within a scope if its base does. -/
theorem Operand.address_within_iff {base : Temp} {offset : Int32} :
    (Operand.address base offset).Within scope ↔ base.Within scope := by
  simp [Operand.within_iff, Operand.slot?, Operand.temps]

private theorem Operand.indexed_within_iff {base index : Temp} {scale : UInt8} {offset : Int32} :
    (Operand.indexed base index scale offset).Within scope ↔
      base.Within scope ∧ index.Within scope := by
  simp [Operand.within_iff, Operand.slot?, Operand.temps]

private theorem Operand.stack_within_iff {slot : SlotId} {offset : Int32} :
    (Operand.stack slot offset).Within scope ↔ scope.slots slot := by
  simp [Operand.within_iff, Operand.slot?, Operand.temps]

/-! ### Rebuilding operands -/

/-- Replacing an operand as a whole by one within a scope stays within it. -/
theorem rebuilds_operands : Rebuilds Operand (Operand.Within scope) (Operand.Within scope) := by
  intro operand answers _ fitting rebuilt given
  cases answers with
  | nil => cases given
  | cons answer rest => exact fitting answer List.mem_cons_self rebuilt given

private theorem Temp.getD_within {value : Temp} {replacement? : Option Temp}
    (kept : value.Within scope)
    (fits : ∀ replacement ∈ replacement?, replacement.Within scope) :
    (replacement?.getD value).Within scope := by
  cases replacement? with
  | none => exact kept
  | some replacement => exact fits replacement rfl

/-- Replacing values by values within a scope stays within it. -/
theorem rebuilds_temps : Rebuilds Temp (Operand.Within scope) (Temp.Within scope) := by
  intro operand answers kept fitting rebuilt given
  change operand.rebuildTemps answers = some rebuilt at given
  unfold Operand.rebuildTemps at given
  split at given
  · obtain ⟨value, rfl, rfl⟩ := Option.map_eq_some_iff.mp given
    exact Operand.temp_within_iff.mpr (fitting _ List.mem_cons_self value rfl)
  · obtain ⟨base, rfl, rfl⟩ := Option.map_eq_some_iff.mp given
    exact Operand.address_within_iff.mpr (fitting _ List.mem_cons_self base rfl)
  · rename_i base index scale offset newBase newIndex
    obtain ⟨baseWithin, indexWithin⟩ := Operand.indexed_within_iff.mp kept
    have second := fitting newIndex (List.mem_cons_of_mem _ List.mem_cons_self)
    have replaced : (Operand.indexed (newBase.getD base) (newIndex.getD index) scale
        offset).Within scope :=
      Operand.indexed_within_iff.mpr
        ⟨Temp.getD_within baseWithin (fitting newBase List.mem_cons_self),
          Temp.getD_within indexWithin second⟩
    unfold Operand.reindex? at given
    split at given
    · cases given
    · cases given
      exact replaced
  · cases given

private theorem registerAnswers_within (values : List Temp) (answers : List (Option Register)) :
    ∀ answer ∈ Operand.registerAnswers values answers, ∀ value ∈ answer, value.Within scope := by
  fun_induction Operand.registerAnswers values answers with
  | case1 holder values answer answers ih =>
      intro other member value given
      rcases List.mem_cons.mp member with rfl | later
      · obtain ⟨replacement, -, rfl⟩ := Option.map_eq_some_iff.mp given
        trivial
      · exact ih other later value given
  | case2 values answers first _ ih =>
      intro other member value given
      rcases List.mem_cons.mp member with rfl | later
      · cases given
      · exact ih other later value given
  | case3 answers =>
      intro other member
      exact absurd member List.not_mem_nil

/-- Replacing registers stays within every scope. -/
theorem rebuilds_registers : Rebuilds Register (Operand.Within scope) (fun _ => True) := by
  intro operand answers kept _ rebuilt given
  exact rebuilds_temps operand _ kept (registerAnswers_within operand.temps answers) rebuilt given

/-- Replacing the slot of stack storage by one of the scope stays within it. -/
theorem rebuilds_slots : Rebuilds SlotId (Operand.Within scope) scope.slots := by
  intro operand answers _ fitting rebuilt given
  change operand.rebuildSlot answers = some rebuilt at given
  unfold Operand.rebuildSlot at given
  split at given
  · obtain ⟨slot, rfl, rfl⟩ := Option.map_eq_some_iff.mp given
    exact Operand.stack_within_iff.mpr (fitting _ List.mem_cons_self slot rfl)
  · cases given

/-! ### Walks with any visitor -/

/-- A walk over one instruction: its kind, its visitor, and the state that the visitor
starts from. -/
inductive Rewriting : Type 1 where
  /-- Operands in place. -/
  | operands {σ : Type} (visitor : Operand → Access → StateM σ Operand) (state : σ)
  /-- Operands as parts. -/
  | wholes {σ : Type} (visitor : Visitor σ Operand) (state : σ)
  | temps {σ : Type} (visitor : Visitor σ Temp) (state : σ)
  | registers {σ : Type} (visitor : Visitor σ Register) (state : σ)
  | slots {σ : Type} (visitor : Visitor σ SlotId) (state : σ)

namespace Rewriting

/-- Walk over an instruction. -/
def run (instr : Instr) (table : ConventionTable) : Rewriting → Except Fault Instr
  | operands visitor state => ((instr.updateOperands table visitor).run state).1
  | wholes visitor state => ((instr.updateParts table visitor).run state).1
  | temps visitor state => ((instr.updateParts table visitor).run state).1
  | registers visitor state => ((instr.updateParts table visitor).run state).1
  | slots visitor state => ((instr.updateParts table visitor).run state).1

/-- All that the visitor supplies in the calls of the walk lies within a scope. An operand
that it leaves as it is supplies nothing. -/
def Supplies (scope : Scope) (instr : Instr) (table : ConventionTable) : Rewriting → Prop
  | operands visitor state =>
      ∀ call ∈ ((instr.updateOperands table (recording visitor)).run ([], state)).2.1,
        call.answer = call.thing ∨ call.answer.Within scope
  | wholes visitor state =>
      ∀ call ∈ ((instr.updateParts table (recording visitor)).run ([], state)).2.1,
        ∀ replacement ∈ call.answer, replacement.Within scope
  | temps visitor state =>
      ∀ call ∈ ((instr.updateParts table (recording visitor)).run ([], state)).2.1,
        ∀ replacement ∈ call.answer, replacement.Within scope
  | registers _ _ => True
  | slots visitor state =>
      ∀ call ∈ ((instr.updateParts table (recording visitor)).run ([], state)).2.1,
        ∀ replacement ∈ call.answer, scope.slots replacement

/-- What lies within a smaller scope lies within a larger one. -/
theorem Supplies.mono {smaller larger : Scope} (below : smaller.Below larger) {instr : Instr}
    {table : ConventionTable} {rewriting : Rewriting}
    (supplies : rewriting.Supplies smaller instr table) :
    rewriting.Supplies larger instr table := by
  cases rewriting with
  | operands visitor state =>
      exact fun call made => (supplies call made).imp_right (·.mono below)
  | wholes visitor state =>
      exact fun call made replacement given => (supplies call made replacement given).mono below
  | temps visitor state =>
      exact fun call made replacement given => (supplies call made replacement given).mono below
  | registers visitor state => trivial
  | slots visitor state =>
      exact fun call made replacement given =>
        below.slots replacement (supplies call made replacement given)

/-- **Rewriting stays within a scope.** If all that the visitor supplies lies within a scope, so
does the instruction that a walk leaves. -/
theorem run_within {rewriting : Rewriting} {instr updated : Instr} {table : ConventionTable}
    (started : instr.Within scope) (supplies : rewriting.Supplies scope instr table)
    (succeeded : rewriting.run instr table = .ok updated) : updated.Within scope := by
  cases rewriting with
  | operands visitor state =>
      exact Instr.updateOperands_keeps_of_calls succeeded started supplies
  | wholes visitor state =>
      exact Instr.updateParts_keeps rebuilds_operands succeeded started supplies
  | temps visitor state =>
      exact Instr.updateParts_keeps rebuilds_temps succeeded started supplies
  | registers visitor state =>
      exact Instr.updateParts_keeps rebuilds_registers succeeded started
        fun _ _ _ _ => trivial
  | slots visitor state =>
      exact Instr.updateParts_keeps rebuilds_slots succeeded started supplies

end Rewriting

/-! ### Walks by rules -/

/-- Every replacement that a rule may give is fit. -/
def Rule.Fits (fit : α → Prop) (rule : Rule α) : Prop :=
  ∀ replacement ∈ rule.replacement?, fit replacement

private theorem Rule.Fits.mono {fit better : α → Prop} {rule : Rule α} (fits : rule.Fits fit)
    (improves : ∀ thing, fit thing → better thing) : rule.Fits better :=
  fun replacement given => improves replacement (fits replacement given)

variable [DecidableEq α] {fit : α → Prop}

/-- The answer of fitting rules is fit, and they stay fitting when one is spent. -/
theorem Rule.answer_fits (thing : α) (access? : Option Access) {rules : List (Rule α)}
    (fitting : ∀ rule ∈ rules, rule.Fits fit) :
    (∀ replacement ∈ (Rule.answer thing access? rules).1, fit replacement) ∧
      ∀ rule ∈ (Rule.answer thing access? rules).2, rule.Fits fit := by
  induction rules with
  | nil => exact ⟨fun _ given => (nomatch given), fitting⟩
  | cons rule rest ih =>
      have first := fitting rule List.mem_cons_self
      have others := fun other member => fitting other (List.mem_cons_of_mem rule member)
      obtain ⟨answered, remaining⟩ := ih others
      by_cases applies : rule.applies thing access?
      · simp only [Rule.answer, applies, ↓reduceIte]
        exact ⟨first, List.forall_mem_cons.mpr ⟨first, others⟩⟩
      · simp only [Rule.answer, applies, Bool.false_eq_true, ↓reduceIte]
        exact ⟨answered, List.forall_mem_cons.mpr ⟨first, remaining⟩⟩

/-- Whatever fitting rules supply in a walk is fit. -/
theorem Substitution.supplied_fits [Part α] [ListedPart α] {rules : List (Rule α)}
    (fitting : ∀ rule ∈ rules, rule.Fits fit) (instr : Instr) (table : ConventionTable) :
    ∀ call ∈ ((instr.updateParts table (recording visitor)).run ([], start rules)).2.1,
      ∀ replacement ∈ call.answer, fit replacement := by
  let invariant (state : List (Call α (Option α)) × Substitution α) : Prop :=
    (∀ rule ∈ state.2.rules, rule.Fits fit) ∧
      ∀ call ∈ state.1, ∀ replacement ∈ call.answer, fit replacement
  have kept :
      invariant ((instr.updateParts table (recording visitor)).run ([], start rules)).2 := by
    refine Instr.updateParts_preserves ?_ ⟨fitting, fun _ member => nomatch member⟩
    rintro thing access ⟨calls, substitution⟩ ⟨fits, recorded⟩
    obtain ⟨answered, remaining⟩ := Rule.answer_fits thing (some access) fits
    refine ⟨remaining, fun call member => ?_⟩
    rcases List.mem_append.mp member with earlier | last
    · exact recorded call earlier
    · cases List.mem_singleton.mp last
      exact answered
  exact kept.2

/-- Everything that the rules of a visit may supply lies within a scope. -/
def Visit.Within (scope : Scope) : Visit → Prop
  | .sites | .operands => True
  | .replace rules | .wholes rules => ∀ rule ∈ rules, rule.Fits (Operand.Within scope)
  | .temps rules => ∀ rule ∈ rules, rule.Fits (Temp.Within scope)
  | .registers _ => True
  | .slots rules => ∀ rule ∈ rules, rule.Fits scope.slots

/-- A visit that stays within a smaller scope stays within a larger one. -/
theorem Visit.Within.mono {smaller larger : Scope} (below : smaller.Below larger) {manner : Visit}
    (within : manner.Within smaller) : manner.Within larger := by
  cases manner with
  | sites => trivial
  | operands => trivial
  | replace rules => exact fun rule member => (within rule member).mono fun _ => .mono below
  | wholes rules => exact fun rule member => (within rule member).mono fun _ => .mono below
  | temps rules => exact fun rule member => (within rule member).mono fun _ => .mono below
  | registers rules => trivial
  | slots rules => exact fun rule member => (within rule member).mono below.slots

/-- A visit by rules of a scope leaves an instruction within the scope. -/
theorem Visit.run_within {manner : Visit} {instr visited : Instr} {table : ConventionTable}
    (started : instr.Within scope) (supplied : manner.Within scope)
    (succeeded : (manner.run instr table).2 = .ok visited) : visited.Within scope := by
  cases manner with
  | sites =>
      obtain ⟨_, _, rfl⟩ := exists_of_map_eq_ok succeeded
      exact started
  | operands =>
      obtain ⟨_, _, rfl⟩ := exists_of_map_eq_ok succeeded
      exact started
  | replace rules =>
      exact Instr.updateParts_keeps rebuilds_operands succeeded started
        (Substitution.supplied_fits supplied instr table)
  | wholes rules =>
      exact Instr.updateParts_keeps rebuilds_operands succeeded started
        (Substitution.supplied_fits supplied instr table)
  | temps rules =>
      exact Instr.updateParts_keeps rebuilds_temps succeeded started
        (Substitution.supplied_fits supplied instr table)
  | registers rules =>
      exact Instr.updateParts_keeps rebuilds_registers succeeded started
        fun _ _ _ _ => trivial
  | slots rules =>
      exact Instr.updateParts_keeps rebuilds_slots succeeded started
        (Substitution.supplied_fits supplied instr table)

end BackendIR
