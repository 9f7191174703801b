import BackendIR.Instr.Walk

/-!
# The sites of a survey

Whatever the convention, a survey lists the first operand positions of the
instruction one after another and never one that the instruction does not have
(`BackendIR.Instr.survey_aligned`). So no operand is visited twice, and what a
reading walk shows is the list of the first operands with their accesses
(`BackendIR.Instr.sightings_eq_zip`).
-/

namespace BackendIR

/-- A changed result that succeeds comes from one that succeeds. -/
theorem exists_of_map_eq_ok {ε α β : Type} {result : Except ε α} {change : α → β} {changed : β}
    (succeeded : result.map change = .ok changed) :
    ∃ value, result = .ok value ∧ change value = changed := by
  cases result with
  | error refusal => cases succeeded
  | ok value => exact ⟨value, rfl, Except.ok.inj succeeded⟩

namespace Survey

/-- The sites are the first positions in order, and no more than a number of them. -/
structure Aligned (count : Nat) (survey : Survey) : Prop where
  positions : survey.sites.map Site.position = List.range survey.sites.length
  length_le : survey.sites.length ≤ count

private theorem refused_aligned (count : Nat) (fault : Fault) : (refused fault).Aligned count where
  positions := rfl
  length_le := Nat.zero_le count

/-- Accesses are listed at the first positions in order. -/
theorem sites_ofAccesses (accesses : List Access) :
    (ofAccesses accesses).sites = accesses.mapIdx Site.mk :=
  List.append_nil _

/-- The accesses of the sites are those that were given. -/
theorem accesses_ofAccesses (accesses : List Access) :
    (ofAccesses accesses).sites.map Site.access = accesses := by
  rw [sites_ofAccesses]
  apply List.ext_getElem?
  intro position
  rw [List.getElem?_map, List.getElem?_mapIdx, Option.map_map]
  exact Option.map_id_apply

/-- One access for each operand, in order, gives aligned sites. -/
theorem ofAccesses_aligned {count : Nat} {accesses : List Access}
    (complete : accesses.length = count) : (ofAccesses accesses).Aligned count := by
  constructor
  · rw [sites_ofAccesses]
    apply List.ext_getElem
    · simp
    · intro position _ _
      simp
  · apply Nat.le_of_eq
    rw [sites_ofAccesses, List.length_mapIdx, complete]

/-- The moves of a shuffle are listed from their first position on. -/
theorem positions_moves (opcode : Opcode) (position : Nat) (operands : List Operand) :
    (moves opcode position operands).sites.map Site.position =
        List.range' position (moves opcode position operands).sites.length ∧
      (moves opcode position operands).sites.length ≤ operands.length := by
  fun_induction moves opcode position operands with
  | case1 position source target tag rest width found bank ih =>
      obtain ⟨positions, bounded⟩ := ih
      constructor
      · simpa [listed, List.range'_succ, Nat.add_assoc] using positions
      · simpa [listed] using bounded
  | case2 position source target tag rest missing => exact ⟨rfl, Nat.zero_le _⟩
  | case3 position operands short => exact ⟨rfl, Nat.zero_le _⟩

/-- The survey of moves has aligned sites, wherever it stops. -/
theorem moves_aligned (opcode : Opcode) (operands : List Operand) :
    (moves opcode 0 operands).Aligned operands.length := by
  obtain ⟨positions, length_le⟩ := positions_moves opcode 0 operands
  exact ⟨positions.trans List.range_eq_range'.symm, length_le⟩

end Survey

namespace Signature

/-- Arguments have one access each. -/
theorem length_argumentAccesses {types : List ValueType} {accesses : List Access}
    (found : argumentAccesses types = .ok accesses) : accesses.length = types.length := by
  induction types generalizing accesses with
  | nil =>
      cases found
      rfl
  | cons type rest ih =>
      unfold argumentAccesses at found
      split at found
      · obtain ⟨others, later, rfl⟩ := exists_of_map_eq_ok found
        rw [List.length_cons, List.length_cons, ih later]
      · cases found

/-- A call accesses as many operands as its signature asks for. -/
theorem length_accesses {signature : Signature} {accesses : List Access}
    (found : signature.accesses = .ok accesses) : accesses.length = signature.arity := by
  obtain ⟨arguments, listed, rfl⟩ := exists_of_map_eq_ok found
  have result : (signature.result.access? .define).toList.length =
      if signature.result = .void then 0 else 1 := by
    cases signature.result <;> rfl
  rw [List.length_append, List.length_cons, result, length_argumentAccesses listed, arity]
  omega

end Signature

namespace Instr

/-- A patch that is not malformed has one access for each operand. -/
theorem length_patchAccesses {instr : Instr} {accesses : List Access}
    (found : instr.patchAccesses = .ok accesses) : accesses.length = instr.operands.length := by
  unfold patchAccesses at found
  split at found
  · split at found
    · cases found
      assumption
    · cases found
  · cases found

/-- A call that is not malformed has one access for each operand. -/
theorem length_callAccesses {instr : Instr} {accesses : List Access}
    (found : instr.callAccesses = .ok accesses) : accesses.length = instr.operands.length := by
  unfold callAccesses at found
  split at found
  · split at found
    · rename_i complete
      rw [Signature.length_accesses found, complete]
    · cases found
  · cases found

/-- An instruction with an unbound opcode is refused without a site. -/
theorem survey_of_unbound {instr : Instr} {table : ConventionTable}
    (missing : table.convention? instr.opcode = none) :
    instr.survey table = .refused (.unrecognized instr.opcode.name) := by
  simp only [survey, ConventionTable.convention, missing]

/-- An instruction is surveyed under the convention of its opcode. -/
theorem survey_of_bound {instr : Instr} {table : ConventionTable} {convention : Convention}
    (bound : table.convention? instr.opcode = some convention) :
    instr.survey table = instr.surveyUnder convention := by
  simp only [survey, ConventionTable.convention, bound]

/-- A survey by a list of accesses lists all operands, or is refused without a site. -/
theorem surveyAll_cases {instr : Instr} {accesses : Except Malformation (List Access)}
    (complete : ∀ found, accesses = .ok found → found.length = instr.operands.length) :
    (∃ found : List Access, found.length = instr.operands.length ∧
        instr.surveyAll accesses = .ofAccesses found) ∨
      ∃ fault, instr.surveyAll accesses = .refused fault := by
  cases accesses with
  | ok found => exact .inl ⟨found, complete found rfl, rfl⟩
  | error reason => exact .inr ⟨_, rfl⟩

/-- Every strategy but the shuffle lists all operands, or is refused without a site. -/
theorem surveyBy_cases (instr : Instr) {strategy : Strategy} (other : strategy ≠ .shuffle) :
    (∃ found : List Access, found.length = instr.operands.length ∧
        instr.surveyBy strategy = .ofAccesses found) ∨
      ∃ fault, instr.surveyBy strategy = .refused fault := by
  cases strategy with
  | shuffle => exact absurd rfl other
  | patch => exact surveyAll_cases fun _ => length_patchAccesses
  | call => exact surveyAll_cases fun _ => length_callAccesses
  | coldCall =>
      apply surveyAll_cases
      intro found cooled
      obtain ⟨warm, accesses, rfl⟩ := exists_of_map_eq_ok cooled
      rw [List.length_map, length_callAccesses accesses]

/-- Of the fixed forms, the first with as many accesses as there are operands counts. -/
theorem surveyUnder_fixed_cases (instr : Instr) (forms : List (List Access)) (effects : Bool) :
    (∃ earlier form later, forms = earlier ++ form :: later ∧
        form.length = instr.operands.length ∧
        (∀ other ∈ earlier, other.length ≠ instr.operands.length) ∧
        instr.surveyUnder (.fixed forms effects) = .ofAccesses form) ∨
      (∀ form ∈ forms, form.length ≠ instr.operands.length) ∧
        instr.surveyUnder (.fixed forms effects) =
          .refused (.noForm instr.opcode.name instr.operands.length) := by
  cases found : forms.find? (fun form => form.length == instr.operands.length) with
  | none =>
      refine .inr ⟨?_, by simp only [surveyUnder, found]⟩
      simpa [List.find?_eq_none] using found
  | some form =>
      obtain ⟨matching, earlier, later, split, skipped⟩ := List.find?_eq_some_iff_append.mp found
      refine .inl ⟨earlier, form, later, split, eq_of_beq matching, ?_,
        by simp only [surveyUnder, found]⟩
      intro other member same
      simpa [same] using skipped other member

/-- Shuffles apart, a survey lists an access for every operand or is refused at once. -/
theorem survey_cases {instr : Instr} {table : ConventionTable}
    (other : table.convention? instr.opcode ≠ some (.derived .shuffle)) :
    (∃ found : List Access, found.length = instr.operands.length ∧
        instr.survey table = .ofAccesses found) ∨
      ∃ fault, instr.survey table = .refused fault := by
  cases bound : table.convention? instr.opcode with
  | none => exact .inr ⟨_, survey_of_unbound bound⟩
  | some convention =>
      rw [survey_of_bound bound]
      cases convention with
      | derived strategy =>
          apply surveyBy_cases
          rintro rfl
          exact other bound
      | fixed forms effects =>
          rcases instr.surveyUnder_fixed_cases forms effects with
            ⟨_, form, _, _, matching, _, same⟩ | ⟨_, same⟩
          · exact .inl ⟨form, matching, same⟩
          · exact .inr ⟨_, same⟩

/-- **Surveys are aligned.** Every survey lists the first positions of the
instruction, each once and in order. -/
theorem survey_aligned (instr : Instr) (table : ConventionTable) :
    (instr.survey table).Aligned instr.operands.length := by
  by_cases shuffles : table.convention? instr.opcode = some (.derived .shuffle)
  · rw [survey_of_bound shuffles]
    exact Survey.moves_aligned instr.opcode instr.operands
  · rcases survey_cases shuffles with ⟨found, complete, same⟩ | ⟨fault, same⟩
    · rw [same]
      exact Survey.ofAccesses_aligned complete
    · rw [same]
      exact Survey.refused_aligned _ _

/-- What a reading walk from a position on shows, if the sites are aligned there. -/
theorem filterMap_sites_eq_zip {sites : List Site} {start : Nat}
    (positions : sites.map Site.position = List.range' start sites.length)
    (operands : List Operand) :
    (sites.filterMap fun site => operands[site.position]?.map (·, site.access)) =
      (operands.drop start).zip (sites.map Site.access) := by
  induction sites generalizing start with
  | nil => simp
  | cons site rest ih =>
      rw [List.map_cons, List.length_cons, List.range'_succ, List.cons.injEq] at positions
      obtain ⟨rfl, later⟩ := positions
      rw [List.filterMap_cons, ih later, List.map_cons]
      cases found : operands[site.position]? with
      | none =>
          have past : operands.length ≤ site.position := List.getElem?_eq_none_iff.mp found
          rw [List.drop_eq_nil_of_le past, List.drop_eq_nil_of_le (Nat.le_succ_of_le past)]
          rfl
      | some operand =>
          obtain ⟨inside, rfl⟩ := List.getElem?_eq_some_iff.mp found
          rw [List.drop_eq_getElem_cons inside]
          rfl

/-- A reading walk shows the first operands with their accesses. -/
theorem sightings_eq_zip (instr : Instr) (table : ConventionTable) :
    (instr.sightings table).1 =
      instr.operands.zip ((instr.survey table).sites.map Site.access) := by
  have positions := (instr.survey_aligned table).positions
  rw [List.range_eq_range'] at positions
  exact filterMap_sites_eq_zip positions instr.operands

/-- A walk shows one operand for each site. -/
theorem length_sightings (instr : Instr) (table : ConventionTable) :
    (instr.sightings table).1.length = (instr.survey table).sites.length := by
  rw [sightings_eq_zip, List.length_zip, List.length_map]
  exact Nat.min_eq_right (instr.survey_aligned table).length_le

/-- A walk shows the first operands in order, as many as there are sites. -/
theorem map_fst_sightings (instr : Instr) (table : ConventionTable) :
    (instr.sightings table).1.map Prod.fst =
      instr.operands.take (instr.survey table).sites.length := by
  have bounded := (instr.survey_aligned table).length_le
  rw [sightings_eq_zip, List.zip_eq_zip_take_min, List.length_map, Nat.min_eq_right bounded]
  apply List.map_fst_zip
  simp [Nat.min_eq_left bounded]

end Instr

end BackendIR
