import Mathlib.Data.List.Basic
import BackendIR.Proofs.Walk.Parts

/-!
# What a walk over values offers

A walk over values goes through the sites of an instruction and offers at each of them the
values that occur in its operand (`BackendIR.Instr.valuesAt`). A value that is the operand has the
access of the site. One inside an address is read as a pointer, however the site accesses
memory, so an offer in any other role than a plain use is for an operand that is the value. A walk
over registers leaves out the values that are not in registers and offers the rest under the same
accesses (`BackendIR.Instr.walks_offer_values`).
-/

namespace BackendIR

variable {σ : Type}

/-! ### Values of an operand -/

namespace Operand

/-- How a value in an operand is accessed, given the access to the operand: in the same way if it
is the operand, else as a pointer or, where only the address is computed, as wide as that. -/
def accessTo (operand : Operand) (access : Access) (value : Temp) : Access :=
  if operand = .temp value then access
  else ⟨.use, .gp, if access.role = .useAddress then access.width else .w64⟩

/-- Each value of an operand is offered with its own access. -/
theorem tempOffers_eq_map_temps (operand : Operand) (access : Access) :
    operand.tempOffers access =
      operand.temps.map fun value => (value, operand.accessTo access value) := by
  cases operand with
  | temp value => simp [tempOffers, temps, accessTo]
  | address base offset => simp [tempOffers, temps, accessTo, Access.inAddress, Width.pointer]
  | indexed base index scale offset =>
      simp [tempOffers, temps, accessTo, Access.inAddress, Width.pointer]
  | _ => rfl

/-- Only a value that is the operand is accessed otherwise than by a plain use. -/
theorem eq_temp_of_accessTo {operand : Operand} {access : Access} {value : Temp}
    (special : (operand.accessTo access value).role ≠ .use) : operand = .temp value := by
  by_cases whole : operand = .temp value
  · exact whole
  · rw [accessTo, if_neg whole] at special
    exact absurd rfl special

/-- The registers offered are the values offered that are in registers. -/
theorem map_registerOffers (operand : Operand) (access : Access) :
    (operand.registerOffers access).map (fun offer => (Temp.register offer.1, offer.2)) =
      (operand.tempOffers access).filter (·.1.register?.isSome) := by
  rw [registerOffers, List.map_filterMap, ← List.filterMap_eq_filter]
  congr
  funext offer
  obtain ⟨value, access⟩ := offer
  cases value <;> rfl

end Operand

namespace Instr

/-- The values that occur at a site of the instruction, each with its access. -/
def valuesAt (instr : Instr) (site : Site) : List (Temp × Access) :=
  match instr.operands[site.position]? with
  | some operand => operand.temps.map fun value => (value, operand.accessTo site.access value)
  | none => []

variable {instr : Instr} {table : ConventionTable}

/-- A walk over values offers those at the sites, site by site. -/
theorem flatMap_tempOffers_sightings (instr : Instr) (table : ConventionTable) :
    ((instr.sightings table).1.flatMap fun seen => seen.1.tempOffers seen.2) =
      (instr.survey table).sites.flatMap instr.valuesAt := by
  simp only [sightings, List.filterMap_eq_flatMap_toList, List.flatMap_assoc]
  apply List.flatMap_congr
  intro site _
  unfold valuesAt
  cases instr.operands[site.position]? with
  | none => rfl
  | some operand =>
      exact (List.append_nil _).trans (operand.tempOffers_eq_map_temps site.access)

/-- A walk over registers offers those values at the sites that a register holds. -/
theorem flatMap_registerOffers_sightings (instr : Instr) (table : ConventionTable) :
    ((instr.sightings table).1.flatMap fun seen => seen.1.registerOffers seen.2).map
        (fun offer => (Temp.register offer.1, offer.2)) =
      ((instr.survey table).sites.flatMap instr.valuesAt).filter (·.1.register?.isSome) := by
  rw [← flatMap_tempOffers_sightings, List.map_flatMap, List.filter_flatMap]
  apply List.flatMap_congr
  intro seen _
  exact seen.1.map_registerOffers seen.2

/-- The values at a site that are not merely used are its operand. -/
theorem operand_of_mem_valuesAt {site : Site} {offer : Temp × Access}
    (offered : offer ∈ instr.valuesAt site) (special : offer.2.role ≠ .use) :
    instr.operands[site.position]? = some (.temp offer.1) ∧ offer.2 = site.access := by
  unfold valuesAt at offered
  cases found : instr.operands[site.position]? with
  | none =>
      rw [found] at offered
      exact absurd offered List.not_mem_nil
  | some operand =>
      rw [found] at offered
      obtain ⟨value, _, rfl⟩ := List.mem_map.mp offered
      obtain rfl := Operand.eq_temp_of_accessTo special
      exact ⟨rfl, if_pos rfl⟩

/-- An accepted walk over parts offers those of the operands that a reading walk shows. -/
theorem exists_calls_updateParts {α : Type} [Part α] [ListedPart α] {visitor : Visitor σ α}
    {state final : σ} {updated : Instr}
    (walked : (instr.updateParts table visitor).run state = (.ok updated, final)) :
    ∃ calls, (instr.updateParts table (recording visitor)).run ([], state) =
        (.ok updated, calls, final) ∧
      calls.map (fun call => (call.thing, call.access)) =
        (instr.sightings table).1.flatMap fun seen => ListedPart.offers seen.1 seen.2 := by
  have accepted := outcome_of_updateOperands (congrArg Prod.fst walked)
  refine ⟨_, ?_, map_offer_partCalls visitor _ state⟩
  rw [run_updateParts_recording accepted, walked]

/-- **Walks offer values in order.** The calls of an accepted walk over values are, site by
site, for the values of the operand there. Those whose role is to define, or to use on a cold path
or late, are for an operand that is the value. The calls of a walk over registers are those for
values in registers, with the same accesses. -/
theorem walks_offer_values (instr : Instr) (table : ConventionTable) :
    (∀ (σ : Type) (visitor : Visitor σ Temp) (state final : σ) (updated : Instr),
        (instr.updateParts table visitor).run state = (.ok updated, final) →
        ∃ calls, (instr.updateParts table (recording visitor)).run ([], state) =
            (.ok updated, calls, final) ∧
          calls.map (fun call => (call.thing, call.access)) =
            (instr.survey table).sites.flatMap instr.valuesAt) ∧
      (∀ site ∈ (instr.survey table).sites, ∀ offer ∈ instr.valuesAt site,
        offer.2.role.isDefine ∨ offer.2.role.isColdUse ∨ offer.2.role.isLateUse ∨
            offer.2.role = .scratch →
        instr.operands[site.position]? = some (.temp offer.1) ∧ offer.2 = site.access) ∧
      ∀ (σ : Type) (visitor : Visitor σ Register) (state final : σ) (updated : Instr),
        (instr.updateParts table visitor).run state = (.ok updated, final) →
        ∃ calls, (instr.updateParts table (recording visitor)).run ([], state) =
            (.ok updated, calls, final) ∧
          calls.map (fun call => (Temp.register call.thing, call.access)) =
            ((instr.survey table).sites.flatMap instr.valuesAt).filter
              (·.1.register?.isSome) := by
  refine ⟨?_, ?_, ?_⟩
  · intro σ visitor state final updated walked
    obtain ⟨calls, recorded, offered⟩ := exists_calls_updateParts walked
    exact ⟨calls, recorded, offered.trans (instr.flatMap_tempOffers_sightings table)⟩
  · intro site _ offer offered special
    apply operand_of_mem_valuesAt offered
    intro used
    rw [used] at special
    exact absurd special (by decide)
  · intro σ visitor state final updated walked
    obtain ⟨calls, recorded, offered⟩ := exists_calls_updateParts walked
    refine ⟨calls, recorded, ?_⟩
    calc calls.map (fun call => (Temp.register call.thing, call.access))
        = (calls.map fun call => (call.thing, call.access)).map
            fun offer => (Temp.register offer.1, offer.2) := by
          rw [List.map_map]
          rfl
      _ = ((instr.sightings table).1.flatMap fun seen => seen.1.registerOffers seen.2).map
            fun offer => (Temp.register offer.1, offer.2) := congrArg _ offered
      _ = _ := instr.flatMap_registerOffers_sightings table

/-- An address is computed from one register as base and index, a value is scratched, and another
one is the base of the memory that is written. Both walks count their offers; the one over values
replaces all of them. -/
theorem walks_offer_values_address :
    let opcode : Opcode := ⟨9, "Blend"⟩
    let form : List Access := [⟨.useAddress, .gp, .w32⟩, ⟨.scratch, .fp, .w64⟩, ⟨.define, .fp, .w32⟩]
    let table := ConventionTable.empty.bind opcode (.fixed [form] false)
    let holder : Temp := .register Register.framePointer
    let scratch : Temp := .virtual .fp 0
    let base : Temp := .virtual .gp 1
    let instr : Instr :=
      ⟨opcode, [.indexed holder holder 4 0, .temp scratch, .address base 8], .none⟩
    let replacing : Visitor Nat Temp := fun _ _ count => (some base, count + 1)
    let keeping : Visitor Nat Register := fun _ _ count => (none, count + 1)
    let rewritten : Instr :=
      ⟨opcode, [.indexed base base 4 0, .temp base, .address base 8], .none⟩
    (instr.updateParts table replacing).run 0 = (.ok rewritten, 4) ∧
      (instr.updateParts table keeping).run 0 = (.ok instr, 2) ∧
      (∃ calls, (instr.updateParts table (recording replacing)).run ([], 0) =
          (.ok rewritten, calls, 4) ∧
        calls.map (fun call => (call.thing, call.access)) =
          [(holder, ⟨.use, .gp, .w32⟩), (holder, ⟨.use, .gp, .w32⟩),
            (scratch, ⟨.scratch, .fp, .w64⟩), (base, ⟨.use, .gp, .w64⟩)]) ∧
      (∃ calls, (instr.updateParts table (recording keeping)).run ([], 0) =
          (.ok instr, calls, 2) ∧
        calls.map (fun call => (Temp.register call.thing, call.access)) =
          [(holder, ⟨.use, .gp, .w32⟩), (holder, ⟨.use, .gp, .w32⟩)]) ∧
      instr.operands[1]? = some (.temp scratch) := by
  intro opcode form table holder scratch base instr replacing keeping rewritten
  have replaced : (instr.updateParts table replacing).run 0 = (.ok rewritten, 4) := rfl
  have kept : (instr.updateParts table keeping).run 0 = (.ok instr, 2) := rfl
  obtain ⟨values, direct, registers⟩ := walks_offer_values instr table
  obtain ⟨calls, recorded, offered⟩ := values Nat replacing 0 4 rewritten replaced
  obtain ⟨others, noted, held⟩ := registers Nat keeping 0 2 instr kept
  refine ⟨replaced, kept, ⟨calls, recorded, offered.trans rfl⟩, ⟨others, noted, held.trans rfl⟩, ?_⟩
  exact (direct ⟨1, .scratch, .fp, .w64⟩ (by decide) (scratch, ⟨.scratch, .fp, .w64⟩) (by decide)
    (by decide)).1

end Instr

end BackendIR
