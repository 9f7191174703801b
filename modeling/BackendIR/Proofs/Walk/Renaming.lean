import BackendIR.Proofs.Procedure.WellFormed
import BackendIR.Proofs.Walk.Functorial
import BackendIR.Standard

/-!
# Renaming values and slots

A visitor renames one thing to another if it replaces every offer of the first by the second and
keeps all else. As a walk maps the operands that the survey covers, a renaming of values leaves no
mention of the old one there, adds no other than of the new one, and can be undone if the new
one was not in use (`BackendIR.Instr.renaming_values_exact`). An operand mentions a value if a
plain visit comes across it (`BackendIR.Operand.visitPlain_seeking`).

Slots are named in two ways: by stack storage, and by values that are kept in a slot. A walk over
slots offers those of stack storage only, so a renaming of slots leaves the old one named by just
the values that were kept in it (`BackendIR.Instr.renaming_slots_spares_values`).
-/

namespace BackendIR

variable {σ α : Type}

/-! ### Renaming in lists -/

/-- The things named after a renaming, given those named before it: the new one stands for the
old one, which is gone, and others stay. -/
structure Renames (old new : α) (before after : α → Prop) : Prop where
  gone : ¬ after old
  stands : after new ↔ before old ∨ before new
  others : ∀ other, other ≠ old → other ≠ new → (after other ↔ before other)

section Renamed

variable [DecidableEq α] {old new other : α} {things : List α}

/-- What becomes of a thing when an old one is renamed to a new one. -/
def renamed (old new thing : α) : α := if thing = old then new else thing

private theorem renamed_self (old new : α) : renamed old new old = new := if_pos rfl

private theorem renamed_of_ne {thing : α} (differs : thing ≠ old) : renamed old new thing = thing :=
  if_neg differs

/-- After a renaming, the new thing is there if the old one was, and all but the old one stay. -/
theorem mem_map_renamed_iff :
    other ∈ things.map (renamed old new) ↔
      (other = new ∧ old ∈ things) ∨ (other ≠ old ∧ other ∈ things) := by
  constructor
  · intro member
    obtain ⟨thing, present, rfl⟩ := List.mem_map.mp member
    by_cases same : thing = old
    · subst same
      exact .inl ⟨renamed_self _ _, present⟩
    · rw [renamed_of_ne same]
      exact .inr ⟨same, present⟩
  · rintro (⟨rfl, present⟩ | ⟨differs, present⟩)
    · exact List.mem_map.mpr ⟨old, present, renamed_self _ _⟩
    · exact List.mem_map.mpr ⟨other, present, renamed_of_ne differs⟩

/-- Renaming each thing in a list renames what the list has. -/
theorem renames_map (distinct : old ≠ new) (things : List α) :
    Renames old new (· ∈ things) (· ∈ things.map (renamed old new)) where
  gone := by
    rw [mem_map_renamed_iff]
    rintro (⟨same, -⟩ | ⟨differs, -⟩)
    · exact distinct same
    · exact differs rfl
  stands := by rw [mem_map_renamed_iff, and_iff_right rfl, and_iff_right distinct.symm]
  others other notOld notNew := by
    rw [mem_map_renamed_iff, and_iff_right notOld, or_iff_right fun ⟨same, _⟩ => notNew same]

/-- Renaming back undoes a renaming to a thing that was not there. -/
theorem renamed_renamed {thing : α} (fresh : thing ≠ new) :
    renamed new old (renamed old new thing) = thing := by
  by_cases same : thing = old
  · subst same
    rw [renamed_self, renamed_self]
  · rw [renamed_of_ne same, renamed_of_ne fresh]

/-- The visitor that renames a thing and declines every other offer. -/
def renamer (old new : α) : Visitor Unit α :=
  purely fun thing => if thing = old then some new else none

/-- The visitor that renames a thing answers by the renaming. -/
theorem answers_renamer (old new : α) : Answers (renamer old new) (renamed old new) := by
  intro thing access state
  change (if thing = old then some new else none).getD thing = renamed old new thing
  by_cases same : thing = old
  · rw [if_pos same, same, renamed_self]
    rfl
  · rw [if_neg same, renamed_of_ne same]
    rfl

end Renamed

/-! ### Operands at sites -/

namespace Instr

variable {instr updated : Instr} {table : ConventionTable}

/-- At every site of the survey, the operands before and after a walk stand in a relation. -/
def Matches (instr updated : Instr) (table : ConventionTable)
    (relation : Operand → Operand → Prop) : Prop :=
  ∀ site ∈ (instr.survey table).sites, ∃ before after,
    instr.operands[site.position]? = some before ∧
      updated.operands[site.position]? = some after ∧ relation before after

/-- Every operand at a site of the survey has a property. -/
def EverySite (instr : Instr) (table : ConventionTable) (fine : Operand → Prop) : Prop :=
  ∀ site ∈ (instr.survey table).sites, ∀ operand,
    instr.operands[site.position]? = some operand → fine operand

private theorem Matches.imp {relation weaker : Operand → Operand → Prop}
    (holds : instr.Matches updated table relation)
    (implied : ∀ before after, relation before after → weaker before after) :
    instr.Matches updated table weaker := by
  intro site listed
  obtain ⟨before, after, found, left, related⟩ := holds site listed
  exact ⟨before, after, found, left, implied before after related⟩

private theorem position_lt_of_mem {site : Site} (listed : site ∈ (instr.survey table).sites) :
    site.position < (instr.survey table).sites.length := by
  have member : site.position ∈ (instr.survey table).sites.map Site.position :=
    List.mem_map_of_mem listed
  rw [(instr.survey_aligned table).positions] at member
  exact List.mem_range.mp member

/-- The operands at sites are those that the survey covers. -/
theorem everySite_iff {fine : Operand → Prop} :
    instr.EverySite table fine ↔
      ∀ operand ∈ instr.operands.take (instr.survey table).sites.length, fine operand := by
  constructor
  · intro every operand member
    obtain ⟨position, found⟩ := List.mem_iff_getElem?.mp member
    rw [List.getElem?_take] at found
    split at found
    · rename_i inside
      have listed := List.getElem?_eq_getElem inside
      exact every _ (List.mem_of_getElem? listed) operand
        ((position_eq_of_getElem? listed).symm ▸ found)
    · cases found
  · intro every site listed operand found
    refine every operand (List.mem_iff_getElem?.mpr ⟨site.position, ?_⟩)
    rw [List.getElem?_take_of_lt (position_lt_of_mem listed), found]

variable [Part α] [InnerPart α]

/-- A map changes each operand at a site. -/
theorem matches_mapParts (instr : Instr) (table : ConventionTable) (change : α → α) :
    instr.Matches (instr.mapParts table change) table
      fun before after => after = InnerPart.map change before := by
  intro site listed
  have inside := position_lt_of_mem listed
  have bounded := Nat.lt_of_lt_of_le inside (instr.survey_aligned table).length_le
  have found := List.getElem?_eq_getElem bounded
  refine ⟨_, _, found, ?_, rfl⟩
  have front : site.position < ((instr.operands.take (instr.survey table).sites.length).map
      (InnerPart.map change)).length := by
    rw [List.length_map, List.length_take]
    exact Nat.lt_min.mpr ⟨inside, bounded⟩
  rw [mapParts, List.getElem?_append_left front, List.getElem?_map,
    List.getElem?_take_of_lt inside, found]
  rfl

/-- A map that changes no operand at a site changes nothing. -/
theorem mapParts_of_fixed {change : α → α}
    (fixed : instr.EverySite table fun operand => InnerPart.map change operand = operand) :
    instr.mapParts table change = instr := by
  rw [everySite_iff] at fixed
  rw [mapParts, List.map_congr_left fixed, List.map_id', List.take_append_drop]

end Instr

/-! ### Renaming values -/

/-- The visitor that keeps every value and remembers whether a certain one was offered. -/
def seeking (value : Temp) : PlainVisitor Bool Temp :=
  looking fun found offered => found || value == offered

namespace Operand

/-- A value is mentioned if a plain visit comes across it. -/
theorem visitPlain_seeking (operand : Operand) (value : Temp) :
    (Part.visitPlain operand (seeking value)).run false = (none, operand.mentions value) := by
  have sought (found : Bool) (values : List Temp) :
      values.foldl (fun found offered => found || value == offered) found =
        (found || values.contains value) := by
    induction values generalizing found with
    | nil => exact (Bool.or_false found).symm
    | cons first rest ih => rw [List.foldl_cons, ih, List.contains_cons, Bool.or_assoc]
  rw [seeking, visitPlain_looking, sought, Bool.false_or, mentions]

/-- An operand mentions the values that are listed for it. -/
theorem mentions_iff {operand : Operand} {value : Temp} :
    operand.mentions value ↔ value ∈ operand.temps :=
  List.contains_iff_mem

private theorem temps_mapTemps (change : Temp → Temp) (operand : Operand) :
    (operand.mapTemps change).temps = operand.temps.map change := by
  cases operand <;> rfl

/-- An operand whose values are all fixed by a change stays as it is. -/
theorem mapTemps_of_fixed {change : Temp → Temp} {operand : Operand}
    (fixed : ∀ value ∈ operand.temps, change value = value) :
    operand.mapTemps change = operand := by
  cases operand with
  | temp value => rw [mapTemps, fixed value (by simp [temps])]
  | address base offset => rw [mapTemps, fixed base (by simp [temps])]
  | indexed base index scale offset =>
      rw [mapTemps, fixed base (by simp [temps]), fixed index (by simp [temps])]
  | _ => rfl

/-- Renaming a value in an operand renames what the operand mentions. -/
theorem renames_mentions {old new : Temp} (distinct : old ≠ new) (operand : Operand) :
    Renames old new (operand.mentions ·) ((operand.mapTemps (renamed old new)).mentions ·) := by
  simp only [mentions_iff, temps_mapTemps]
  exact renames_map distinct operand.temps

end Operand

/-- A map that changes one value at most changes nothing where that value is not mentioned. -/
theorem Instr.mapParts_of_unmentioned {instr : Instr} {table : ConventionTable} {value : Temp}
    {change : Temp → Temp}
    (unmentioned : instr.EverySite table fun operand => ¬ operand.mentions value)
    (fixed : ∀ other, other ≠ value → change other = other) :
    instr.mapParts table change = instr := by
  apply mapParts_of_fixed
  intro site listed operand found
  apply Operand.mapTemps_of_fixed
  intro other present
  apply fixed
  rintro rfl
  exact unmentioned site listed operand found (Operand.mentions_iff.mpr present)

/-- **Renaming values is exact.** Let a visitor rename an old value to a new one. An accepted walk
then leaves no mention of the old value at the sites; the new one is mentioned where either was,
and other values where they were. If the old value was mentioned at no site, nothing changes. If
the new one was mentioned at no site, renaming it back restores the instruction. -/
theorem Instr.renaming_values_exact (instr : Instr) (table : ConventionTable)
    (accepted : (instr.survey table).outcome = .ok ()) {old new : Temp} (distinct : old ≠ new)
    {visitor : Visitor σ Temp} (renames : Answers visitor (renamed old new)) (state : σ) :
    ∃ updated, ((instr.updateParts table visitor).run state).1 = .ok updated ∧
      instr.Matches updated table
        (fun before after => Renames old new (before.mentions ·) (after.mentions ·)) ∧
      (instr.EverySite table (fun operand => ¬ operand.mentions old) → updated = instr) ∧
      (instr.EverySite table (fun operand => ¬ operand.mentions new) →
        ∀ (τ : Type) (back : Visitor τ Temp) (start : τ), Answers back (renamed new old) →
          ((updated.updateParts table back).run start).1 = .ok instr) := by
  refine ⟨instr.mapParts table (renamed old new), updateParts_of_answers accepted renames state,
    ?_, ?_, ?_⟩
  · apply (instr.matches_mapParts table (renamed old new)).imp
    rintro before _ rfl
    exact before.renames_mentions distinct
  · intro unused
    exact mapParts_of_unmentioned unused fun _ => renamed_of_ne
  · intro fresh τ back start undoes
    have again := outcome_survey_mapParts accepted (renamed old new)
    rw [updateParts_of_answers again undoes start, mapParts_mapParts accepted]
    exact congrArg Except.ok (mapParts_of_unmentioned fresh fun _ => renamed_renamed)

/-- A value that is both base and index of an address is renamed in both places, and back. -/
theorem Instr.renaming_values_exact_base_and_index :
    let old : Temp := .virtual .gp 0
    let new : Temp := .virtual .gp 1
    let target : Temp := .register Register.framePointer
    let load (place : Temp) : Instr :=
      ⟨Standard.move, [.indexed place place 4 8, .temp target], .none⟩
    ((load old).survey Standard.table).outcome = .ok () ∧ old ≠ new ∧
      Answers (renamer old new) (renamed old new) ∧
      (load old).EverySite Standard.table (fun operand => ¬ operand.mentions new) ∧
      ((load old).updateParts Standard.table (renamer old new)).run () = (.ok (load new), ()) ∧
      (load old).Matches (load new) Standard.table
        (fun before after => Renames old new (before.mentions ·) (after.mentions ·)) ∧
      ((load new).updateParts Standard.table (renamer new old)).run () = (.ok (load old), ()) := by
  intro old new target load
  have accepted : ((load old).survey Standard.table).outcome = .ok () := rfl
  have distinct : old ≠ new := by decide
  have fresh : (load old).EverySite Standard.table (fun operand => ¬ operand.mentions new) := by
    rw [everySite_iff]
    decide
  obtain ⟨updated, walked, renames, -, undone⟩ := renaming_values_exact (load old) Standard.table
    accepted distinct (answers_renamer old new) ()
  obtain rfl : load new = updated := Except.ok.inj walked
  refine ⟨accepted, distinct, answers_renamer old new, fresh, rfl, renames, ?_⟩
  exact Prod.ext (undone fresh Unit (renamer new old) () (answers_renamer new old)) rfl

/-! ### Renaming slots -/

namespace Operand

/-- An operand refers to a slot if it lies within no scope that lacks the slot. These are the
references to slots that the check of a procedure looks up. -/
def RefersTo (operand : Operand) (slot : SlotId) : Prop :=
  ∀ scope : Scope, operand.Within scope → scope.slots slot

/-- Slots are referred to by stack storage and by the values that are kept in them. -/
theorem refersTo_iff {operand : Operand} {slot : SlotId} :
    operand.RefersTo slot ↔
      operand.slot? = some slot ∨ ∃ bank, Temp.spilled slot bank ∈ operand.temps := by
  constructor
  · intro refers
    by_contra unnamed
    rw [not_or, not_exists] at unnamed
    -- Nothing in the operand keeps it from the scope that lacks this slot alone.
    let others : Scope := ⟨fun _ => True, fun other => other ≠ slot, fun _ _ => True⟩
    refine refers others (within_iff.mpr ⟨?_, ?_⟩) rfl
    · rintro other named rfl
      exact unnamed.1 named
    · intro value present
      cases value with
      | virtual bank index => trivial
      | register holder => trivial
      | spilled kept bank =>
          rintro rfl
          exact unnamed.2 bank present
  · intro named scope within
    obtain ⟨storage, values⟩ := within_iff.mp within
    rcases named with stored | ⟨bank, present⟩
    · exact storage slot stored
    · exact values _ present

private theorem slot?_mapSlot (change : SlotId → SlotId) (operand : Operand) :
    (operand.mapSlot change).slot? = operand.slot?.map change := by
  cases operand <;> rfl

/-- Changing the slot of stack storage leaves values alone, also those that are kept in the
slot. -/
theorem temps_mapSlot (change : SlotId → SlotId) (operand : Operand) :
    (operand.mapSlot change).temps = operand.temps := by
  cases operand <;> rfl

/-- The slots that one operand refers to are those of another with the slot of its stack
storage renamed. A value that is kept in the old slot stays there. -/
structure SlotsRenamed (old new : SlotId) (before after : Operand) : Prop where
  left : after.RefersTo old ↔ ∃ bank, Temp.spilled old bank ∈ before.temps
  stands : after.RefersTo new ↔ before.slot? = some old ∨ before.RefersTo new
  others : ∀ other, other ≠ old → other ≠ new → (after.RefersTo other ↔ before.RefersTo other)

/-- Renaming the slot of stack storage renames the slots that an operand refers to, values
apart. -/
theorem slotsRenamed_mapSlot {old new : SlotId} (distinct : old ≠ new) (operand : Operand) :
    SlotsRenamed old new operand (operand.mapSlot (renamed old new)) := by
  have storage : Renames old new (operand.slot? = some ·)
      ((operand.mapSlot (renamed old new)).slot? = some ·) := by
    have listed := renames_map distinct operand.slot?.toList
    simp only [← Option.toList_map, Option.mem_toList, ← slot?_mapSlot] at listed
    exact listed
  refine ⟨?_, ?_, fun other notOld notNew => ?_⟩
  · rw [refersTo_iff, temps_mapSlot, or_iff_right storage.gone]
  · rw [refersTo_iff, temps_mapSlot, storage.stands, refersTo_iff, or_assoc]
  · rw [refersTo_iff, temps_mapSlot, storage.others other notOld notNew, refersTo_iff]

end Operand

/-- **Renaming slots spares values.** Let a visitor rename an old slot to a new one. After an
accepted walk, the operand at a site refers to the old slot just if a value in it was kept there;
stack storage has moved to the new slot, and other references stay. So the old slot is gone
from all sites exactly if it held no value there. -/
theorem Instr.renaming_slots_spares_values (instr : Instr) (table : ConventionTable)
    (accepted : (instr.survey table).outcome = .ok ()) {old new : SlotId} (distinct : old ≠ new)
    {visitor : Visitor σ SlotId} (renames : Answers visitor (renamed old new)) (state : σ) :
    ∃ updated, ((instr.updateParts table visitor).run state).1 = .ok updated ∧
      instr.Matches updated table (Operand.SlotsRenamed old new) ∧
      (instr.Matches updated table (fun _ after => ¬ after.RefersTo old) ↔
        instr.EverySite table fun before => ∀ bank, Temp.spilled old bank ∉ before.temps) := by
  have moved : instr.Matches (instr.mapParts table (renamed old new)) table
      (Operand.SlotsRenamed old new) := by
    apply (instr.matches_mapParts table (renamed old new)).imp
    rintro before _ rfl
    exact before.slotsRenamed_mapSlot distinct
  refine ⟨_, updateParts_of_answers accepted renames state, moved, ?_, ?_⟩
  · intro complete site listed operand found bank kept
    obtain ⟨before, after, there, left, slots⟩ := moved site listed
    obtain ⟨_, same, _, again, free⟩ := complete site listed
    obtain rfl : before = operand := Option.some.inj (there.symm.trans found)
    obtain rfl : after = same := Option.some.inj (left.symm.trans again)
    exact free (slots.left.mpr ⟨bank, kept⟩)
  · intro unkept site listed
    obtain ⟨before, after, found, left, slots⟩ := moved site listed
    refine ⟨before, after, found, left, fun refers => ?_⟩
    obtain ⟨bank, kept⟩ := slots.left.mp refers
    exact unkept site listed before found bank kept

/-- Stack storage moves out of a slot, and the base of an address that is kept in another slot
stays. -/
theorem Instr.renaming_slots_spares_values_elsewhere :
    let old : SlotId := ⟨1⟩
    let new : SlotId := ⟨0⟩
    let base : Temp := .spilled ⟨2⟩ .gp
    let move (slot : SlotId) : Instr :=
      ⟨Standard.move, [.address base 8, .stack slot 4], .none⟩
    ((move old).survey Standard.table).outcome = .ok () ∧ old ≠ new ∧
      Answers (renamer old new) (renamed old new) ∧
      ((move old).updateParts Standard.table (renamer old new)).run () = (.ok (move new), ()) ∧
      (move old).Matches (move new) Standard.table (Operand.SlotsRenamed old new) ∧
      (move old).Matches (move new) Standard.table (fun _ after => ¬ after.RefersTo old) := by
  intro old new base move
  have accepted : ((move old).survey Standard.table).outcome = .ok () := rfl
  have distinct : old ≠ new := by decide
  obtain ⟨updated, walked, moved, complete⟩ := renaming_slots_spares_values (move old)
    Standard.table accepted distinct (answers_renamer old new) ()
  obtain rfl : move new = updated := Except.ok.inj walked
  refine ⟨accepted, distinct, answers_renamer old new, rfl, moved, complete.mpr ?_⟩
  have elsewhere (bank : Bank) :
      (move old).EverySite Standard.table (fun before => Temp.spilled old bank ∉ before.temps) := by
    rw [everySite_iff]
    cases bank <;> decide
  exact fun site listed before found bank => elsewhere bank site listed before found

/-- A value kept in a slot is copied into the storage of the slot. Renaming the slot moves the
storage, but the value still refers to the old slot, and the check of a procedure without that
slot finds it. -/
theorem Instr.renaming_slots_misses_spilled_value :
    let old : SlotId := ⟨1⟩
    let new : SlotId := ⟨0⟩
    let value : Temp := .spilled old .gp
    let move (slot : SlotId) : Instr := ⟨Standard.move, [.temp value, .stack slot 4], .none⟩
    let procedure : Procedure :=
      { Procedure.empty.addSlot 8 .spill with
        blocks := [{ Block.fresh ⟨0⟩ Frequency.one with instrs := [move new] }] }
    ((move old).survey Standard.table).outcome = .ok () ∧ old ≠ new ∧
      ((move old).updateParts Standard.table (renamer old new)).run () = (.ok (move new), ()) ∧
      ¬ (move old).Matches (move new) Standard.table (fun _ after => ¬ after.RefersTo old) ∧
      procedure.check = .error (.dangling (.temp value (move new) ⟨0⟩)) := by
  intro old new value move procedure
  refine ⟨rfl, by decide, rfl, ?_, rfl⟩
  intro complete
  obtain ⟨before, after, -, left, free⟩ := complete ⟨0, .use, .gp, .w64⟩ (by decide)
  obtain rfl : .temp value = after := Option.some.inj left
  exact free (Operand.refersTo_iff.mpr (.inr ⟨.gp, List.mem_singleton_self value⟩))

end BackendIR
