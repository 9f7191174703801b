import BackendIR.Proofs.Walk.Coverage
import BackendIR.Proofs.Walk.Parts

/-!
# Rewriting parts as a map

A visitor whose answers depend on the part alone rewrites each operand as a map over
its parts does, whatever else the visitor does (`BackendIR.InnerPart`). So the walk over
an instruction maps the operands that the survey covers
(`BackendIR.Instr.updateParts_of_answers`). A map keeps the widths among the operands,
hence the survey of the result is accepted again and covers the same positions, even
where the accesses of a shuffle have changed bank. From there the laws of maps carry
over to walks over values, registers and slots
(`BackendIR.functorial_walks`).
-/

namespace BackendIR

variable {σ α : Type}

/-! ### Maps over the parts of an operand -/

/-- Operands that differ in values and slots at most: everything else in them is kept. -/
inductive Operand.SameFrame : Operand → Operand → Prop where
  | refl (operand : Operand) : SameFrame operand operand
  | temp (left right : Temp) : SameFrame (.temp left) (.temp right)
  | address (left right : Temp) (offset : Int32) :
      SameFrame (.address left offset) (.address right offset)
  | indexed (base index otherBase otherIndex : Temp) (scale : UInt8) (offset : Int32) :
      SameFrame (.indexed base index scale offset) (.indexed otherBase otherIndex scale offset)
  | stack (left right : SlotId) (offset : Int32) :
      SameFrame (.stack left offset) (.stack right offset)

/-- Values and slots make no difference to widths. -/
theorem Operand.SameFrame.width?_eq {left right : Operand} (same : left.SameFrame right) :
    left.width? = right.width? := by
  cases same <;> rfl

namespace Operand

/-- The operand with its values changed. -/
def mapTemps (change : Temp → Temp) : Operand → Operand
  | .temp value => .temp (change value)
  | .address base offset => .address (change base) offset
  | .indexed base index scale offset => .indexed (change base) (change index) scale offset
  | operand => operand

private theorem mapTemps_id (operand : Operand) : operand.mapTemps id = operand := by
  cases operand <;> rfl

private theorem mapTemps_mapTemps (first second : Temp → Temp) (operand : Operand) :
    (operand.mapTemps first).mapTemps second = operand.mapTemps (second ∘ first) := by
  cases operand <;> rfl

/-- Changing values changes nothing else in an operand. -/
theorem sameFrame_mapTemps (change : Temp → Temp) (operand : Operand) :
    operand.SameFrame (operand.mapTemps change) := by
  cases operand with
  | temp value => exact .temp _ _
  | address base offset => exact .address _ _ _
  | indexed base index scale offset => exact .indexed _ _ _ _ _ _
  | _ => exact .refl _

/-- The operand with the slot of its stack storage changed. -/
def mapSlot (change : SlotId → SlotId) : Operand → Operand
  | .stack slot offset => .stack (change slot) offset
  | operand => operand

private theorem mapSlot_id (operand : Operand) : operand.mapSlot id = operand := by
  cases operand <;> rfl

private theorem mapSlot_mapSlot (first second : SlotId → SlotId) (operand : Operand) :
    (operand.mapSlot first).mapSlot second = operand.mapSlot (second ∘ first) := by
  cases operand <;> rfl

/-- Changing the slot changes nothing else in an operand. -/
theorem sameFrame_mapSlot (change : SlotId → SlotId) (operand : Operand) :
    operand.SameFrame (operand.mapSlot change) := by
  cases operand with
  | stack slot offset => exact .stack _ _ _
  | _ => exact .refl _

end Operand

namespace Temp

/-- The value with the register that holds it changed. -/
def mapRegister (change : Register → Register) : Temp → Temp
  | .register holder => .register (change holder)
  | value => value

private theorem mapRegister_id : mapRegister id = id := by
  funext value
  cases value <;> rfl

private theorem mapRegister_comp (first second : Register → Register) :
    mapRegister second ∘ mapRegister first = mapRegister (second ∘ first) := by
  funext value
  cases value <;> rfl

end Temp

/-! ### Visitors that answer by a map -/

/-- What becomes of a part under a visitor is a function of the part alone. -/
def Answers (visitor : Visitor σ α) (change : α → α) : Prop :=
  ∀ thing access state, ((visitor thing access).run state).1.getD thing = change thing

/-- A kind of part inside operands: visitors that answer by a map rewrite by a map. -/
class InnerPart (α : Type) [Part α] where
  map : (α → α) → Operand → Operand
  map_id (operand : Operand) : map id operand = operand
  map_map (first second : α → α) (operand : Operand) :
    map second (map first operand) = map (second ∘ first) operand
  sameFrame_map (change : α → α) (operand : Operand) : operand.SameFrame (map change operand)
  settle_eq {σ : Type} {visitor : Visitor σ α} {change : α → α} (answers : Answers visitor change)
    (operand : Operand) (access : Access) (state : σ) :
    ((settle visitor operand access).run state).1 = map change operand

private theorem Operand.getD_reindex? (base index : Temp) (scale : UInt8) (offset : Int32)
    (newBase newIndex : Option Temp) :
    (reindex? base index scale offset newBase newIndex).getD (.indexed base index scale offset) =
      .indexed (newBase.getD base) (newIndex.getD index) scale offset := by
  cases newBase <;> cases newIndex <;> rfl

/-- A visitor that answers by a map changes the values of an operand by that map. -/
theorem settle_temps {visitor : Visitor σ Temp} {change : Temp → Temp}
    (answers : Answers visitor change) (operand : Operand) (access : Access) (state : σ) :
    ((settle visitor operand access).run state).1 = operand.mapTemps change := by
  cases operand with
  | temp value =>
      exact (Option.getD_map _ _ _).trans (congrArg Operand.temp (answers value access state))
  | address base offset =>
      exact (Option.getD_map _ _ _).trans
        (congrArg (Operand.address · offset) (answers base access.inAddress state))
  | indexed base index scale offset =>
      -- The visitor's state moves on between the base and the index; its answers do not.
      refine (Operand.getD_reindex? base index scale offset _ _).trans ?_
      rw [Operand.mapTemps, ← answers base access.inAddress state,
        ← answers index access.inAddress ((visitor base access.inAddress).run state).2]
      rfl
  | _ => rfl

instance : InnerPart Temp where
  map := Operand.mapTemps
  map_id := Operand.mapTemps_id
  map_map := Operand.mapTemps_mapTemps
  sameFrame_map := Operand.sameFrame_mapTemps
  settle_eq := settle_temps

/-- A visitor of registers as one of values. -/
def onRegisters (visitor : Visitor σ Register) : Visitor σ Temp := fun value access =>
  match value.register? with
  | some holder => return (← visitor holder access).map .register
  | none => return none

/-- A visitor of registers that answers by a map does so as a visitor of values. -/
theorem Answers.onRegisters {visitor : Visitor σ Register} {change : Register → Register}
    (answers : Answers visitor change) :
    Answers (onRegisters visitor) (Temp.mapRegister change) := by
  intro value access state
  cases value with
  | register holder =>
      exact (Option.getD_map _ _ _).trans (congrArg Temp.register (answers holder access state))
  | virtual _ _ | spilled _ _ => rfl

instance : InnerPart Register where
  map change := Operand.mapTemps (Temp.mapRegister change)
  map_id operand := by rw [Temp.mapRegister_id, Operand.mapTemps_id]
  map_map first second operand := by rw [Operand.mapTemps_mapTemps, Temp.mapRegister_comp]
  sameFrame_map change := Operand.sameFrame_mapTemps (Temp.mapRegister change)
  settle_eq answers := settle_temps answers.onRegisters

instance : InnerPart SlotId where
  map := Operand.mapSlot
  map_id := Operand.mapSlot_id
  map_map := Operand.mapSlot_mapSlot
  sameFrame_map := Operand.sameFrame_mapSlot
  settle_eq answers operand access state := by
    cases operand with
    | stack slot offset =>
        exact (Option.getD_map _ _ _).trans
          (congrArg (Operand.stack · offset) (answers slot access state))
    | _ => rfl

/-! ### Instructions -/

/-- Answers that depend on the thing alone can be told without the state. -/
theorem ask_eq_map {β γ : Type} {visitor : β → Access → StateM σ γ} {answer : β → γ}
    (steady : ∀ thing access state, ((visitor thing access).run state).1 = answer thing)
    (offers : List (β × Access)) (state : σ) :
    ((ask visitor offers).run state).1 = offers.map fun offer => answer offer.1 := by
  induction offers generalizing state with
  | nil => rfl
  | cons offer rest ih =>
      rw [run_ask_cons, List.map_cons, ← ih, ← steady offer.1 offer.2 state]

namespace Instr

variable [Part α] [InnerPart α] {instr : Instr} {table : ConventionTable}

/-- The instruction with the parts in the surveyed operands changed. -/
def mapParts (instr : Instr) (table : ConventionTable) (change : α → α) : Instr :=
  let covered := (instr.survey table).sites.length
  { instr with
    operands := (instr.operands.take covered).map (InnerPart.map change) ++
      instr.operands.drop covered }

/-- **Walks as maps.** An accepted walk with a visitor that answers by a map succeeds and maps the
parts at the sites. -/
theorem updateParts_of_answers (accepted : (instr.survey table).outcome = .ok ())
    {visitor : Visitor σ α} {change : α → α} (answers : Answers visitor change) (state : σ) :
    ((instr.updateParts table visitor).run state).1 = .ok (instr.mapParts table change) := by
  have asked := ask_eq_map (InnerPart.settle_eq answers) (instr.sightings table).1 state
  rw [← Function.comp_def (InnerPart.map change) Prod.fst, ← List.map_map,
    map_fst_sightings] at asked
  have count := (length_ask (settle visitor) _ state).trans (instr.length_sightings table)
  change ((instr.updateOperands table (settle visitor)).run state).1 = _
  rw [run_updateOperands accepted]
  simp only [count]
  rw [asked]
  rfl

/-- A map over parts changes nothing but values and slots, operand by operand. -/
theorem forall₂_sameFrame_mapParts (instr : Instr) (table : ConventionTable) (change : α → α) :
    List.Forall₂ Operand.SameFrame instr.operands (instr.mapParts table change).operands := by
  have front (operands : List Operand) :
      List.Forall₂ Operand.SameFrame operands (operands.map (InnerPart.map change)) := by
    rw [List.forall₂_map_right_iff, List.forall₂_same]
    exact fun operand _ => InnerPart.sameFrame_map change operand
  have back (operands : List Operand) : List.Forall₂ Operand.SameFrame operands operands :=
    List.forall₂_same.mpr fun operand _ => .refl operand
  let covered := (instr.survey table).sites.length
  have joined : List.Forall₂ Operand.SameFrame
      (instr.operands.take covered ++ instr.operands.drop covered)
      (instr.mapParts table change).operands :=
    List.rel_append (front _) (back _)
  rwa [List.take_append_drop] at joined

/-- A map over parts keeps the widths in their places. -/
theorem tags_mapParts (instr : Instr) (table : ConventionTable) (change : α → α) :
    (instr.mapParts table change).operands.map Operand.width? =
      instr.operands.map Operand.width? := by
  have framed := instr.forall₂_sameFrame_mapParts table change
  have same : List.Forall₂ Eq (instr.operands.map Operand.width?)
      ((instr.mapParts table change).operands.map Operand.width?) := by
    rw [List.forall₂_map_left_iff, List.forall₂_map_right_iff]
    exact framed.imp fun _ _ same => same.width?_eq
  rw [List.forall₂_eq_eq_eq] at same
  exact same.symm

/-- A map leaves an accepted survey accepted. -/
theorem outcome_survey_mapParts (accepted : (instr.survey table).outcome = .ok ())
    (change : α → α) : ((instr.mapParts table change).survey table).outcome = .ok () :=
  outcome_survey_of_tags (instr.tags_mapParts table change) accepted

/-- The survey of the result may give other accesses, but covers as many operands. -/
theorem length_sites_mapParts (accepted : (instr.survey table).outcome = .ok ())
    (change : α → α) :
    ((instr.mapParts table change).survey table).sites.length =
      (instr.survey table).sites.length := by
  have count : (instr.mapParts table change).operands.length = instr.operands.length := by
    simpa using congrArg List.length (instr.tags_mapParts table change)
  rw [length_sites_of_ok (outcome_survey_mapParts accepted change), length_sites_of_ok accepted,
    count]
  rfl

/-- Changing no part changes nothing. -/
theorem mapParts_id (instr : Instr) (table : ConventionTable) :
    instr.mapParts table (id : α → α) = instr := by
  have kept : InnerPart.map (id : α → α) = id := funext InnerPart.map_id
  rw [mapParts, kept, List.map_id, List.take_append_drop]

/-- Two maps over the parts of an accepted instruction are one map by both changes. -/
theorem mapParts_mapParts (accepted : (instr.survey table).outcome = .ok ())
    (first second : α → α) :
    (instr.mapParts table first).mapParts table second =
      instr.mapParts table (second ∘ first) := by
  have covered := length_sites_mapParts accepted first
  have inside := (instr.survey_aligned table).length_le
  have front : ((instr.operands.take (instr.survey table).sites.length).map
      (InnerPart.map first)).length = (instr.survey table).sites.length := by
    rw [List.length_map, List.length_take, Nat.min_eq_left inside]
  rw [mapParts, covered]
  simp only [mapParts, List.take_left' front, List.drop_left' front, List.map_map]
  congr 3
  funext operand
  exact InnerPart.map_map first second operand

end Instr

/-! ### Laws of walks -/

/-- The visitor that answers by a function of the part alone. -/
def purely (replace : α → Option α) : Visitor Unit α := fun thing _ => pure (replace thing)

/-- What becomes of a part. -/
def replaced (replace : α → Option α) (thing : α) : α := (replace thing).getD thing

/-- A visitor that answers by a function of the part alone answers by a map. -/
theorem answers_purely (replace : α → Option α) : Answers (purely replace) (replaced replace) :=
  fun _ _ _ => rfl

/-- Accepted walks over the parts of a kind obey the laws of maps. -/
structure FunctorialWalks (α : Type) [Part α] : Prop where
  /-- A visitor that keeps every part, with or without giving it back, keeps the instruction. -/
  keeps (instr : Instr) (table : ConventionTable) :
    (instr.survey table).outcome = .ok () →
    ∀ (σ : Type) (visitor : Visitor σ α) (state : σ),
      (∀ thing access state, ((visitor thing access).run state).1 = none ∨
        ((visitor thing access).run state).1 = some thing) →
      ((instr.updateParts table visitor).run state).1 = .ok instr
  /-- Two walks, one after the other, do what one walk does with both visitors at once. -/
  composes (instr : Instr) (table : ConventionTable) :
    (instr.survey table).outcome = .ok () →
    ∀ first second : α → Option α, ∃ once twice,
      (instr.updateParts table (purely first)).run () = (.ok once, ()) ∧
      (once.updateParts table (purely second)).run () = (.ok twice, ()) ∧
      (instr.updateParts table
        (purely fun thing => some (replaced second (replaced first thing)))).run () =
          (.ok twice, ())
  /-- A walk changes parts only, and leaves an instruction that can be walked over. -/
  frames (instr : Instr) (table : ConventionTable) :
    (instr.survey table).outcome = .ok () →
    ∀ replace : α → Option α, ∃ once,
      (instr.updateParts table (purely replace)).run () = (.ok once, ()) ∧
      once.opcode = instr.opcode ∧ once.metadata = instr.metadata ∧
      List.Forall₂ Operand.SameFrame instr.operands once.operands ∧
      (once.survey table).outcome = .ok ()

/-- Walks over every kind of part inside operands obey the laws of maps. -/
theorem functorialWalks_of_inner (α : Type) [Part α] [InnerPart α] : FunctorialWalks α where
  keeps := by
    intro instr table accepted σ visitor state keeping
    have answers : Answers visitor id := by
      intro thing access state
      rcases keeping thing access state with kept | same
      · rw [kept]
        rfl
      · rw [same]
        rfl
    rw [Instr.updateParts_of_answers accepted answers state, Instr.mapParts_id]
  composes := by
    intro instr table accepted first second
    have again := Instr.outcome_survey_mapParts accepted (replaced first)
    refine ⟨instr.mapParts table (replaced first),
      instr.mapParts table (replaced second ∘ replaced first), ?_, ?_, ?_⟩
    · exact Prod.ext (Instr.updateParts_of_answers accepted (answers_purely first) ()) rfl
    · rw [← Instr.mapParts_mapParts accepted]
      exact Prod.ext (Instr.updateParts_of_answers again (answers_purely second) ()) rfl
    · exact Prod.ext (Instr.updateParts_of_answers accepted (answers_purely _) ()) rfl
  frames := by
    intro instr table accepted replace
    refine ⟨instr.mapParts table (replaced replace), ?_, rfl, rfl,
      instr.forall₂_sameFrame_mapParts table _, Instr.outcome_survey_mapParts accepted _⟩
    exact Prod.ext (Instr.updateParts_of_answers accepted (answers_purely replace) ()) rfl

/-- **Rewriting is functorial** over values, over registers and over slots. -/
theorem functorial_walks :
    FunctorialWalks Temp ∧ FunctorialWalks Register ∧ FunctorialWalks SlotId :=
  ⟨functorialWalks_of_inner Temp, functorialWalks_of_inner Register,
    functorialWalks_of_inner SlotId⟩

/-- A move into memory whose source changes bank in the first walk, so that the second one
visits under other accesses; the base of the address changes with it, the index does not. -/
theorem functorial_walks_change_of_bank :
    let opcode : Opcode := ⟨9, "Shuffle"⟩
    let table := ConventionTable.empty.bind opcode (.derived .shuffle)
    let low : Temp := .virtual .gp 0
    let high : Temp := .virtual .fp 0
    let move (value : Temp) : Instr := ⟨opcode,
      [.temp value, .indexed value (.register Register.framePointer) 4 8, .width .w64], .none⟩
    let first : Temp → Option Temp := fun value => if value = low then some high else none
    let second : Temp → Option Temp := fun value => if value = high then some low else none
    ((move low).survey table).outcome = .ok () ∧
      ((move low).updateParts table (purely first)).run () = (.ok (move high), ()) ∧
      ((move high).survey table).sites ≠ ((move low).survey table).sites ∧
      (∃ once twice, ((move low).updateParts table (purely first)).run () = (.ok once, ()) ∧
        (once.updateParts table (purely second)).run () = (.ok twice, ()) ∧
        ((move low).updateParts table
          (purely fun thing => some (replaced second (replaced first thing)))).run () =
            (.ok twice, ())) ∧
      (∃ once, ((move low).updateParts table
          (purely fun _ => some Register.stackPointer)).run () = (.ok once, ()) ∧
        List.Forall₂ Operand.SameFrame (move low).operands once.operands) ∧
      ((move low).updateParts table (purely fun slot : SlotId => some slot)).run () =
        (.ok (move low), ()) := by
  intro opcode table low high move first second
  have accepted : ((move low).survey table).outcome = .ok () := rfl
  obtain ⟨temps, registers, slots⟩ := functorial_walks
  refine ⟨accepted, rfl, by decide, temps.composes (move low) table accepted first second, ?_, ?_⟩
  · obtain ⟨once, ran, -, -, framed, -⟩ :=
      registers.frames (move low) table accepted fun _ => some Register.stackPointer
    exact ⟨once, ran, framed⟩
  · exact Prod.ext (slots.keeps (move low) table accepted Unit _ () fun _ _ _ => .inr rfl) rfl

end BackendIR
