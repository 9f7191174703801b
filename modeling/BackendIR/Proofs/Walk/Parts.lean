import BackendIR.Proofs.Walk.Update

/-!
# Parts as offers and answers

A visit of an operand asks its visitor about the parts that occur in it, one after
another, and rebuilds the operand from the answers (`BackendIR.ListedPart`). The calls
of a walk over an instruction are for the parts of its operands in order
(`BackendIR.map_offer_partCalls`), and recording them does not disturb the walk
(`BackendIR.Instr.run_updateParts_recording`). So a property of operands that
rebuilding keeps, provided that every replacement is fit for it, is kept by the whole
walk over an instruction (`BackendIR.Instr.updateParts_keeps`). Only replacements that
the visitor really gives in the walk count.
-/

namespace BackendIR

variable {σ α β : Type}

/-- A kind of part whose occurrences in an operand can be listed: a visit asks about
them in order, and rebuilds the operand from the answers. -/
class ListedPart (α : Type) [Part α] where
  offers : Operand → Access → List (α × Access)
  rebuild : Operand → List (Option α) → Option Operand
  run_visit {σ : Type} (operand : Operand) (access : Access) (visitor : Visitor σ α) (state : σ) :
    (Part.visit operand access visitor).run state =
      let asked := (ask visitor (offers operand access)).run state
      (rebuild operand asked.1, asked.2)

namespace Operand

/-- The values in an operand with their accesses. -/
def tempOffers (operand : Operand) (access : Access) : List (Temp × Access) :=
  match operand with
  | .temp value => [(value, access)]
  | .address base _ => [(base, access.inAddress)]
  | .indexed base index _ _ => [(base, access.inAddress), (index, access.inAddress)]
  | _ => []

/-- The operand with its values replaced, unless every answer is to keep them. -/
def rebuildTemps : Operand → List (Option Temp) → Option Operand
  | .temp _, [value] => value.map .temp
  | .address _ offset, [base] => base.map (.address · offset)
  | .indexed base index scale offset, [newBase, newIndex] =>
      reindex? base index scale offset newBase newIndex
  | _, _ => none

/-- A visit of values asks about them in order and rebuilds the operand from the answers. -/
theorem run_visitTemps (operand : Operand) (access : Access) (visitor : Visitor σ Temp)
    (state : σ) :
    (operand.visitTemps access visitor).run state =
      let asked := (ask visitor (operand.tempOffers access)).run state
      (operand.rebuildTemps asked.1, asked.2) := by
  cases operand <;> rfl

/-- The registers in an operand with their accesses. -/
def registerOffers (operand : Operand) (access : Access) : List (Register × Access) :=
  (operand.tempOffers access).filterMap fun offer => offer.1.register?.map (·, offer.2)

/-- Answers about registers as answers about values: one that no register holds is
passed over, so it has no answer of its own and is kept. -/
def registerAnswers : List Temp → List (Option Register) → List (Option Temp)
  | .register _ :: values, answer :: answers =>
      answer.map .register :: registerAnswers values answers
  | _ :: values, answers => none :: registerAnswers values answers
  | [], _ => []

/-- There is an answer about each value. -/
theorem length_registerAnswers (values : List Temp) (answers : List (Option Register)) :
    (registerAnswers values answers).length = values.length := by
  fun_induction registerAnswers values answers with
  | case1 holder values answer answers ih => exact congrArg Nat.succ ih
  | case2 answers value values other ih => exact congrArg Nat.succ ih
  | case3 answers => rfl

/-- A value that no register holds takes no answer. -/
theorem registerAnswers_cons_of_none {value : Temp} (free : value.register? = none)
    (values : List Temp) (answers : List (Option Register)) :
    registerAnswers (value :: values) answers = none :: registerAnswers values answers := by
  cases value with
  | register holder => cases free
  | virtual bank index => cases answers <;> rfl
  | spilled slot bank => cases answers <;> rfl

/-- The operand with its registers replaced. -/
def rebuildRegisters (operand : Operand) (answers : List (Option Register)) : Option Operand :=
  operand.rebuildTemps (registerAnswers operand.temps answers)

/-- The slot of stack storage with its access. -/
def slotOffers (operand : Operand) (access : Access) : List (SlotId × Access) :=
  operand.slot?.toList.map (·, access)

/-- Stack storage with its slot replaced. -/
def rebuildSlot : Operand → List (Option SlotId) → Option Operand
  | .stack _ offset, [slot] => slot.map (.stack · offset)
  | _, _ => none

end Operand

instance : ListedPart Operand where
  offers operand access := [(operand, access)]
  rebuild _ answers := answers.head?.join
  run_visit _ _ _ _ := rfl

instance : ListedPart Temp where
  offers := Operand.tempOffers
  rebuild := Operand.rebuildTemps
  run_visit := Operand.run_visitTemps

instance : ListedPart Register where
  offers := Operand.registerOffers
  rebuild := Operand.rebuildRegisters
  run_visit operand access visitor state := by
    cases operand with
    | temp value => cases value <;> rfl
    | address base offset => cases base <;> rfl
    | indexed base index scale offset => cases base <;> cases index <;> rfl
    | _ => rfl

instance : ListedPart SlotId where
  offers := Operand.slotOffers
  rebuild := Operand.rebuildSlot
  run_visit operand _ _ _ := by cases operand <;> rfl

/-! ### What a walk keeps -/

/-- Calls made of all answers tell the answers. -/
theorem map_answer_zipWith {offers : List (α × Access)} {answers : List β}
    (complete : answers.length = offers.length) :
    (List.zipWith Call.ofOffer offers answers).map Call.answer = answers := by
  induction offers generalizing answers with
  | nil => exact (List.length_eq_zero_iff.mp complete).symm
  | cons offer rest ih =>
      cases answers with
      | nil => cases complete
      | cons answer others => exact congrArg (answer :: ·) (ih (Nat.succ.inj complete))

/-- What a walk over parts does with each operand. -/
def settle [Part α] (visitor : Visitor σ α) (operand : Operand) (access : Access) :
    StateM σ Operand := do
  return (← Part.visit operand access visitor).getD operand

variable [Part α] [ListedPart α]

/-- What a walk does with an operand depends on the visitor through the answers about its
parts. -/
theorem run_settle (visitor : Visitor σ α) (operand : Operand) (access : Access) (state : σ) :
    (settle visitor operand access).run state =
      let asked := (ask visitor (ListedPart.offers operand access)).run state
      ((ListedPart.rebuild operand asked.1).getD operand, asked.2) := by
  change (fun visited : Option Operand × σ => (visited.1.getD operand, visited.2))
    ((Part.visit operand access visitor).run state) = _
  rw [ListedPart.run_visit]

variable (α) in
/-- Rebuilding an operand keeps a property if every replacement is fit for it. -/
def Rebuilds (fine : Operand → Prop) (fit : α → Prop) : Prop :=
  ∀ (operand : Operand) (answers : List (Option α)), fine operand →
    (∀ answer ∈ answers, ∀ replacement ∈ answer, fit replacement) →
    ∀ rebuilt ∈ ListedPart.rebuild operand answers, fine rebuilt

variable {fine : Operand → Prop} {fit : α → Prop}

/-- An operand keeps a property, rebuilt or not, if the replacements are fit for it. -/
theorem Rebuilds.getD (rebuilds : Rebuilds α fine fit) {operand : Operand} (kept : fine operand)
    {answers : List (Option α)}
    (fitting : ∀ answer ∈ answers, ∀ replacement ∈ answer, fit replacement) :
    fine ((ListedPart.rebuild operand answers).getD operand) := by
  cases rebuilt : ListedPart.rebuild operand answers with
  | none => exact kept
  | some replaced => exact rebuilds operand answers kept fitting replaced rebuilt

/-! ### The calls of a walk -/

/-- The calls that a walk over parts makes for some operands. -/
def partCalls (visitor : Visitor σ α) : List (Operand × Access) → σ → List (Call α (Option α))
  | [], _ => []
  | (operand, access) :: rest, state =>
      let offers : List (α × Access) := ListedPart.offers operand access
      let asked := (ask visitor offers).run state
      List.zipWith Call.ofOffer offers asked.1 ++ partCalls visitor rest asked.2

/-- Recording notes these calls and does not disturb the walk. -/
theorem run_ask_settle_recording (visitor : Visitor σ α) (seen : List (Operand × Access))
    (calls : List (Call α (Option α))) (state : σ) :
    (ask (settle (recording visitor)) seen).run (calls, state) =
      let asked := (ask (settle visitor) seen).run state
      (asked.1, calls ++ partCalls visitor seen state, asked.2) := by
  induction seen generalizing calls state with
  | nil => simp only [run_ask_nil, partCalls, List.append_nil]
  | cons offer rest ih =>
      simp only [run_ask_cons, run_settle, run_ask_recording, partCalls]
      rw [ih, List.append_assoc]

/-- The parts of the operands are offered, operand by operand, whatever the visitor answers. -/
theorem map_offer_partCalls (visitor : Visitor σ α) (seen : List (Operand × Access)) (state : σ) :
    (partCalls visitor seen state).map (fun call => (call.thing, call.access)) =
      seen.flatMap fun offer => ListedPart.offers offer.1 offer.2 := by
  induction seen generalizing state with
  | nil => rfl
  | cons offer rest ih =>
      rw [partCalls, List.map_append, ih, map_offer_zipWith (length_ask visitor _ state),
        List.flatMap_cons]

/-- If every replacement in these calls is fit, the operands stay fine. -/
theorem ask_settle_keeps (rebuilds : Rebuilds α fine fit) (visitor : Visitor σ α)
    {seen : List (Operand × Access)} (started : ∀ offer ∈ seen, fine offer.1) {state : σ}
    (fitting : ∀ call ∈ partCalls visitor seen state, ∀ replacement ∈ call.answer,
      fit replacement) :
    ∀ operand ∈ ((ask (settle visitor) seen).run state).1, fine operand := by
  induction seen generalizing state with
  | nil => exact fun operand member => absurd member List.not_mem_nil
  | cons offer rest ih =>
      let offers : List (α × Access) := ListedPart.offers offer.1 offer.2
      let asked := (ask visitor offers).run state
      let made := List.zipWith Call.ofOffer offers asked.1
      have told : made.map Call.answer = asked.1 :=
        map_answer_zipWith (length_ask visitor _ state)
      have first : fine ((ListedPart.rebuild offer.1 asked.1).getD offer.1) := by
        apply rebuilds.getD (started offer List.mem_cons_self)
        rw [← told]
        intro answer member
        obtain ⟨call, given, rfl⟩ := List.mem_map.mp member
        exact fitting call (List.mem_append_left _ given)
      simp only [run_ask_cons, run_settle]
      intro operand member
      rcases List.mem_cons.mp member with rfl | other
      · exact first
      · exact ih (fun offer member => started offer (List.mem_cons_of_mem _ member))
          (fun call given => fitting call (List.mem_append_right _ given)) operand other

namespace Instr

variable {instr updated : Instr} {table : ConventionTable}

/-- A walk succeeds only where the survey accepts the instruction. -/
theorem outcome_of_updateOperands {visitor : Operand → Access → StateM σ Operand} {state : σ}
    (succeeded : ((instr.updateOperands table visitor).run state).1 = .ok updated) :
    (instr.survey table).outcome = .ok () := by
  cases outcome : (instr.survey table).outcome with
  | error fault =>
      rw [run_updateOperands_of_error outcome] at succeeded
      cases succeeded
  | ok done => rfl

/-- What is left by an accepted walk is fine if the answers are and the operands were. -/
theorem updateOperands_keeps {visitor : Operand → Access → StateM σ Operand} {state : σ}
    (succeeded : ((instr.updateOperands table visitor).run state).1 = .ok updated)
    (started : ∀ operand ∈ instr.operands, fine operand)
    (answered : ∀ operand ∈ ((ask visitor (instr.sightings table).1).run state).1, fine operand) :
    ∀ operand ∈ updated.operands, fine operand := by
  rw [run_updateOperands (outcome_of_updateOperands succeeded)] at succeeded
  cases succeeded
  intro operand member
  rcases List.mem_append.mp member with given | behind
  · exact answered operand given
  · exact started operand (List.mem_of_mem_drop behind)

/-- What is left by a walk is fine if every operand that the visitor puts in is. -/
theorem updateOperands_keeps_of_calls {visitor : Operand → Access → StateM σ Operand} {state : σ}
    (succeeded : ((instr.updateOperands table visitor).run state).1 = .ok updated)
    (started : ∀ operand ∈ instr.operands, fine operand)
    (supplied : ∀ call ∈ ((instr.updateOperands table (recording visitor)).run ([], state)).2.1,
      call.answer = call.thing ∨ fine call.answer) :
    ∀ operand ∈ updated.operands, fine operand := by
  refine updateOperands_keeps succeeded started ?_
  rw [run_updateOperands (outcome_of_updateOperands succeeded)] at supplied
  simp only [run_ask_recording, List.nil_append] at supplied
  have complete := length_ask visitor (instr.sightings table).1 state
  intro operand member
  rw [← map_answer_zipWith complete] at member
  obtain ⟨call, given, rfl⟩ := List.mem_map.mp member
  rcases supplied call given with same | fits
  · have offered : (call.thing, call.access) ∈ (instr.sightings table).1 := by
      rw [← map_offer_zipWith complete]
      exact List.mem_map.mpr ⟨call, given, rfl⟩
    rw [sightings_eq_zip] at offered
    exact same ▸ started call.thing (List.of_mem_zip offered).1
  · exact fits

/-- Recording notes the calls of an accepted walk over parts and changes nothing else. -/
theorem run_updateParts_recording (accepted : (instr.survey table).outcome = .ok ())
    (visitor : Visitor σ α) (state : σ) :
    (instr.updateParts table (recording visitor)).run ([], state) =
      let walked := (instr.updateParts table visitor).run state
      (walked.1, partCalls visitor (instr.sightings table).1 state, walked.2) := by
  change (instr.updateOperands table (settle (recording visitor))).run ([], state) =
    let walked := (instr.updateOperands table (settle visitor)).run state
    (walked.1, partCalls visitor (instr.sightings table).1 state, walked.2)
  rw [run_updateOperands accepted, run_updateOperands accepted, run_ask_settle_recording]
  rfl

/-- What is left by a walk over parts is fine if every replacement that the visitor
gives is fit. -/
theorem updateParts_keeps (rebuilds : Rebuilds α fine fit) {visitor : Visitor σ α} {state : σ}
    (succeeded : ((instr.updateParts table visitor).run state).1 = .ok updated)
    (started : ∀ operand ∈ instr.operands, fine operand)
    (supplied : ∀ call ∈ ((instr.updateParts table (recording visitor)).run ([], state)).2.1,
      ∀ replacement ∈ call.answer, fit replacement) :
    ∀ operand ∈ updated.operands, fine operand := by
  have accepted := outcome_of_updateOperands succeeded
  refine updateOperands_keeps succeeded started (ask_settle_keeps rebuilds visitor ?_ ?_)
  · intro offer member
    rw [sightings_eq_zip] at member
    exact started offer.1 (List.of_mem_zip member).1
  · rw [run_updateParts_recording accepted] at supplied
    exact supplied

end Instr

/-! ### Invariants of visitors -/

/-- Asking preserves what every answer of the visitor preserves. -/
theorem ask_preserves {γ δ : Type} {invariant : σ → Prop} {visitor : γ → Access → StateM σ δ}
    (step : ∀ thing access state, invariant state →
      invariant ((visitor thing access).run state).2)
    (offers : List (γ × Access)) {state : σ} (holds : invariant state) :
    invariant ((ask visitor offers).run state).2 := by
  induction offers generalizing state with
  | nil => exact holds
  | cons offer rest ih =>
      rw [run_ask_cons]
      exact ih (step offer.1 offer.2 state holds)

/-- An invariant of the visitor's state that each call keeps is kept by a whole walk. -/
theorem Instr.updateParts_preserves {instr : Instr} {table : ConventionTable}
    {invariant : σ → Prop} {visitor : Visitor σ α}
    (step : ∀ thing access state, invariant state →
      invariant ((visitor thing access).run state).2)
    {state : σ} (holds : invariant state) :
    invariant ((instr.updateParts table visitor).run state).2 := by
  change invariant ((instr.updateOperands table (settle visitor)).run state).2
  cases outcome : (instr.survey table).outcome with
  | error fault =>
      rw [run_updateOperands_of_error outcome]
      exact holds
  | ok done =>
      rw [run_updateOperands outcome]
      refine ask_preserves ?_ _ holds
      intro operand access state holds
      rw [run_settle]
      exact ask_preserves step _ holds

end BackendIR
