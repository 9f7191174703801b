import Mathlib.Data.List.Basic
import BackendIR.Proofs.Walk.Parts

/-!
# Plain visits

A plain visit of an operand is the annotated one of a visitor that does not look at accesses,
whatever access is given (`BackendIR.PlainPart.visitPlain_eq`). So the two make the same offers in
the same order, and leave the same state and the same operand behind. Nothing is rebuilt exactly
if every offer was declined. An operand that is itself a part makes one offer, and a replacement
takes its place (`BackendIR.plain_visits_agree`).
-/

namespace BackendIR

variable {σ α : Type}

namespace PlainVisitor

/-- The visitor as one that is told accesses and does not look at them. -/
def unannotated (visitor : PlainVisitor σ α) : Visitor σ α := fun thing _ => visitor thing

/-- The visitor, made to note its offers and answers in order. -/
def noting (visitor : PlainVisitor σ α) : PlainVisitor (List (α × Option α) × σ) α :=
  fun thing (notes, state) =>
    let (answer, next) := (visitor thing).run state
    (answer, notes ++ [(thing, answer)], next)

/-- Noting takes down the calls without their accesses and changes nothing else. -/
theorem run_ask_noting (visitor : PlainVisitor σ α) (offers : List (α × Access))
    (notes : List (α × Option α)) (state : σ) :
    (ask visitor.noting.unannotated offers).run (notes, state) =
      let asked := (ask visitor.unannotated offers).run state
      (asked.1, notes ++ (List.zipWith Call.ofOffer offers asked.1).map
        (fun call => (call.thing, call.answer)), asked.2) := by
  induction offers generalizing notes state with
  | nil => simp only [run_ask_nil, List.zipWith_nil_left, List.map_nil, List.append_nil]
  | cons offer rest ih =>
      let first := (visitor offer.1).run state
      have noted : (visitor.noting.unannotated offer.1 offer.2).run (notes, state) =
          (first.1, notes ++ [(offer.1, first.1)], first.2) := rfl
      have answered : (visitor.unannotated offer.1 offer.2).run state = first := rfl
      rw [run_ask_cons, run_ask_cons, noted, answered]
      simp only [ih, List.zipWith_cons_cons, List.map_cons, List.append_assoc,
        List.singleton_append, Call.ofOffer]

end PlainVisitor

/-! ### Answers and rebuilding -/

private theorem Temp.register?_eq_some_iff {value : Temp} {holder : Register} :
    value.register? = some holder ↔ value = .register holder := by
  cases value <;> simp [register?]

namespace Operand

private theorem register?_eq_some_iff {operand : Operand} {holder : Register} :
    operand.register? = some holder ↔ operand = .temp (.register holder) := by
  cases operand <;> simp [register?, temp?, Temp.register?_eq_some_iff]

private theorem reindex?_eq_none_iff {base index : Temp} {scale : UInt8} {offset : Int32}
    {newBase newIndex : Option Temp} :
    reindex? base index scale offset newBase newIndex = none ↔
      newBase = none ∧ newIndex = none := by
  cases newBase <;> cases newIndex <;> simp [reindex?]

/-- Values are kept exactly if every answer is to keep one. -/
theorem rebuildTemps_eq_none_iff {operand : Operand} {answers : List (Option Temp)}
    (complete : answers.length = operand.temps.length) :
    operand.rebuildTemps answers = none ↔ ∀ answer ∈ answers, answer = none := by
  cases operand with
  | temp value =>
      obtain ⟨answer, rfl⟩ := List.length_eq_one_iff.mp complete
      simp [rebuildTemps]
  | address base offset =>
      obtain ⟨answer, rfl⟩ := List.length_eq_one_iff.mp complete
      simp [rebuildTemps]
  | indexed base index scale offset =>
      obtain ⟨newBase, newIndex, rfl⟩ := List.length_eq_two.mp complete
      simp [rebuildTemps, reindex?_eq_none_iff]
  | _ =>
      obtain rfl := List.length_eq_zero_iff.mp complete
      simp [rebuildTemps]

/-- The values that are offered are those of the operand in order. -/
theorem map_fst_tempOffers (operand : Operand) (access : Access) :
    (operand.tempOffers access).map Prod.fst = operand.temps := by
  cases operand <;> rfl

/-- The registers that are offered are those that hold values of the operand, in order. -/
theorem map_fst_registerOffers (operand : Operand) (access : Access) :
    (operand.registerOffers access).map Prod.fst = operand.temps.filterMap Temp.register? := by
  rw [registerOffers, ← operand.map_fst_tempOffers access, List.map_filterMap, List.filterMap_map]
  simp [Function.comp_def]

/-- Passing over values that are not in registers adds no replacement and drops none. -/
theorem registerAnswers_keep_iff {values : List Temp} {answers : List (Option Register)}
    (complete : answers.length = (values.filterMap Temp.register?).length) :
    (∀ answer ∈ registerAnswers values answers, answer = none) ↔
      ∀ answer ∈ answers, answer = none := by
  induction values generalizing answers with
  | nil =>
      obtain rfl := List.length_eq_zero_iff.mp complete
      simp [registerAnswers]
  | cons value rest ih =>
      cases held : value.register? with
      | none =>
          rw [List.filterMap_cons_none held] at complete
          rw [registerAnswers_cons_of_none held, List.forall_mem_cons, ih complete]
          exact and_iff_right rfl
      | some holder =>
          obtain rfl := Temp.register?_eq_some_iff.mp held
          rw [List.filterMap_cons_some held] at complete
          cases answers with
          | nil => cases complete
          | cons answer others =>
              rw [registerAnswers, List.forall_mem_cons, List.forall_mem_cons,
                ih (Nat.succ.inj complete), Option.map_eq_none_iff]

end Operand

/-! ### The four kinds of parts -/

/-- A kind of part whose plain visits follow the annotated ones. An operand is rebuilt if any
answer is a replacement; one that is itself a part makes one offer, with its own access. -/
class PlainPart (α : Type) [Part α] [ListedPart α] : Prop where
  visitPlain_eq {σ : Type} (operand : Operand) (access : Access) (visitor : PlainVisitor σ α) :
    Part.visitPlain operand visitor = Part.visit operand access visitor.unannotated
  rebuild_eq_none_iff {operand : Operand} {access : Access} {answers : List (Option α)} :
    answers.length = (ListedPart.offers operand access : List (α × Access)).length →
    (ListedPart.rebuild operand answers = none ↔ ∀ answer ∈ answers, answer = none)
  offers_of_ofOperand? {operand : Operand} {thing : α} (access : Access) :
    Part.ofOperand? operand = some thing → ListedPart.offers operand access = [(thing, access)]
  exists_rebuild {operand : Operand} {thing : α} (replacement : α) :
    Part.ofOperand? operand = some thing →
    ∃ rebuilt, ListedPart.rebuild operand [some replacement] = some rebuilt ∧
      Part.ofOperand? rebuilt = some replacement

instance : PlainPart Operand where
  visitPlain_eq _ _ _ := rfl
  rebuild_eq_none_iff complete := by
    obtain ⟨answer, rfl⟩ := List.length_eq_one_iff.mp complete
    change answer = none ↔ ∀ other ∈ [answer], other = none
    rw [List.forall_mem_singleton]
  offers_of_ofOperand? access whole := by
    cases whole
    rfl
  exists_rebuild replacement _ := ⟨replacement, rfl, rfl⟩

instance : PlainPart Temp where
  visitPlain_eq operand access visitor := by cases operand <;> rfl
  rebuild_eq_none_iff {operand access answers} complete := by
    apply Operand.rebuildTemps_eq_none_iff
    rw [complete, ← operand.map_fst_tempOffers access, List.length_map]
    rfl
  offers_of_ofOperand? {operand thing} access whole := by
    cases operand <;> cases whole
    rfl
  exists_rebuild {operand thing} replacement whole := by
    cases operand <;> cases whole
    exact ⟨.temp replacement, rfl, rfl⟩

instance : PlainPart Register where
  visitPlain_eq operand access visitor := by cases operand <;> rfl
  rebuild_eq_none_iff {operand access answers} complete := by
    have count : answers.length = (operand.temps.filterMap Temp.register?).length := by
      rw [complete, ← operand.map_fst_registerOffers access, List.length_map]
      rfl
    change operand.rebuildTemps (Operand.registerAnswers operand.temps answers) = none ↔ _
    rw [Operand.rebuildTemps_eq_none_iff (Operand.length_registerAnswers _ _),
      Operand.registerAnswers_keep_iff count]
  offers_of_ofOperand? {operand thing} access whole := by
    obtain rfl := Operand.register?_eq_some_iff.mp whole
    rfl
  exists_rebuild {operand thing} replacement whole := by
    obtain rfl := Operand.register?_eq_some_iff.mp whole
    exact ⟨.temp (.register replacement), rfl, rfl⟩

instance : PlainPart SlotId where
  visitPlain_eq operand access visitor := by cases operand <;> rfl
  rebuild_eq_none_iff {operand access answers} complete := by
    cases operand with
    | stack slot offset =>
        obtain ⟨answer, rfl⟩ := List.length_eq_one_iff.mp complete
        simp [ListedPart.rebuild, Operand.rebuildSlot]
    | _ =>
        obtain rfl := List.length_eq_zero_iff.mp complete
        simp [ListedPart.rebuild, Operand.rebuildSlot]
  offers_of_ofOperand? {operand thing} access whole := by
    cases operand <;> cases whole
    rfl
  exists_rebuild {operand thing} replacement whole := by
    cases operand <;> cases whole
    exact ⟨.stack replacement _, rfl, rfl⟩

/-- Visits of operands with and without accesses agree on a kind of part. Whatever the visitor and
the access, there is one list of calls, one result and one final state for both. Nothing is
returned exactly if every answer is to keep the thing. The part that an operand is makes the only
offer, and a replacement makes an operand that is the replacement. -/
def VisitsAgree (α : Type) [Part α] : Prop :=
  ∀ (operand : Operand) (access : Access) (σ : Type) (visitor : PlainVisitor σ α) (state : σ),
    ∃ (calls : List (Call α (Option α))) (result : Option Operand) (final : σ),
      (Part.visit operand access visitor.unannotated).run state = (result, final) ∧
      (Part.visitPlain operand visitor).run state = (result, final) ∧
      (Part.visit operand access (recording visitor.unannotated)).run ([], state) =
        (result, calls, final) ∧
      (Part.visitPlain operand visitor.noting).run ([], state) =
        (result, calls.map (fun call => (call.thing, call.answer)), final) ∧
      (result = none ↔ ∀ call ∈ calls, call.answer = none) ∧
      ∀ thing, Part.ofOperand? operand = some thing →
        ∃ answer, calls = [⟨thing, access, answer⟩] ∧
          ∀ replacement, answer = some replacement →
            ∃ rebuilt, result = some rebuilt ∧ Part.ofOperand? rebuilt = some replacement

/-- Visits agree on every kind of part whose plain visits follow the annotated ones. -/
theorem visitsAgree_of_plain (α : Type) [Part α] [ListedPart α] [PlainPart α] :
    VisitsAgree α := by
  intro operand access σ visitor state
  let offers : List (α × Access) := ListedPart.offers operand access
  let asked := (ask visitor.unannotated offers).run state
  have complete : asked.1.length = offers.length := length_ask _ _ _
  refine ⟨List.zipWith Call.ofOffer offers asked.1, ListedPart.rebuild operand asked.1, asked.2,
    ?_, ?_, ?_, ?_, ?_, ?_⟩
  · exact ListedPart.run_visit operand access visitor.unannotated state
  · rw [PlainPart.visitPlain_eq operand access]
    exact ListedPart.run_visit operand access visitor.unannotated state
  · rw [ListedPart.run_visit, run_ask_recording]
    rfl
  · rw [PlainPart.visitPlain_eq operand access, ListedPart.run_visit,
      PlainVisitor.run_ask_noting]
    rfl
  · rw [PlainPart.rebuild_eq_none_iff complete]
    nth_rewrite 1 [← map_answer_zipWith complete]
    exact List.forall_mem_map
  · intro thing whole
    have single : offers = [(thing, access)] := PlainPart.offers_of_ofOperand? access whole
    obtain ⟨answer, only⟩ := List.length_eq_one_iff.mp (complete.trans (congrArg _ single))
    refine ⟨answer, ?_, ?_⟩
    · rw [single, only]
      rfl
    · rintro replacement rfl
      rw [only]
      exact PlainPart.exists_rebuild replacement whole

/-- **Plain and annotated visits agree** on whole operands, values, registers and slots. -/
theorem plain_visits_agree :
    VisitsAgree Operand ∧ VisitsAgree Temp ∧ VisitsAgree Register ∧ VisitsAgree SlotId :=
  ⟨visitsAgree_of_plain Operand, visitsAgree_of_plain Temp, visitsAgree_of_plain Register,
    visitsAgree_of_plain SlotId⟩

/-- A visitor counts its offers and replaces every one. Of an address with a virtual base it is
offered the index alone, and the slot of stack storage is the only offer there. -/
theorem plain_visits_agree_index_and_storage :
    let counting {α : Type} (replacement : α) : PlainVisitor Nat α := fun _ count =>
      (some replacement, count + 1)
    let access : Access := ⟨.define, .fp, .w32⟩
    let base : Temp := .virtual .gp 0
    let address (index : Register) : Operand := .indexed base (.register index) 4 8
    let storage : Operand := .stack ⟨4⟩ 8
    (∃ calls,
        (Part.visit (address Register.framePointer) access
            (recording (counting Register.stackPointer).unannotated)).run ([], 0) =
          (some (address Register.stackPointer), calls, 1) ∧
        (Part.visitPlain (address Register.framePointer)
            (counting Register.stackPointer).noting).run ([], 0) =
          (some (address Register.stackPointer),
            calls.map (fun call => (call.thing, call.answer)), 1)) ∧
      Part.ofOperand? storage = some (⟨4⟩ : SlotId) ∧
      ∃ (answer : Option SlotId) (result : Option Operand),
        (Part.visit storage access (recording (counting ⟨7⟩).unannotated)).run ([], 0) =
          (result, [⟨⟨4⟩, access, answer⟩], 1) ∧
        ∀ replacement, answer = some replacement →
          ∃ rebuilt, result = some rebuilt ∧ Part.ofOperand? rebuilt = some replacement := by
  intro counting access base address storage
  obtain ⟨-, -, registers, slots⟩ := plain_visits_agree
  refine ⟨?_, rfl, ?_⟩
  · obtain ⟨calls, result, final, -, plain, recorded, noted, -⟩ :=
      registers (address Register.framePointer) access Nat (counting Register.stackPointer) 0
    obtain ⟨rfl, rfl⟩ : some (address Register.stackPointer) = result ∧ 1 = final :=
      Prod.mk.inj plain
    exact ⟨calls, recorded, noted⟩
  · obtain ⟨calls, result, final, -, plain, recorded, -, -, whole⟩ :=
      slots storage access Nat (counting ⟨7⟩) 0
    obtain ⟨answer, rfl, replaces⟩ := whole ⟨4⟩ rfl
    obtain rfl : 1 = final := congrArg Prod.snd plain
    exact ⟨answer, result, recorded, replaces⟩

end BackendIR
