import BackendIR.Proofs.Procedure.WellFormed
import BackendIR.Session.Command

/-!
# Predecessors from edges

Rebuilding predecessors records the edges one after another, source by source, in
the blocks they lead to. After the sources below a bound, each block has exactly
those of them that lead to it, in increasing order
(`BackendIR.Procedure.recordEdges_take`): what was recorded before is cleared, and
a second edge from the same source adds nothing. At the end these are all sources
(`BackendIR.Procedure.rebuildPredecessors_exact`). An edge to a missing block
refuses the whole operation before anything is cleared.
-/

namespace BackendIR

/-- Some edge of the block leads to a position. -/
def Block.LeadsTo (block : Block) (position : Nat) : Prop :=
  ∃ edge ∈ block.successors, edge.target.index.toNat = position

instance (block : Block) (position : Nat) : Decidable (block.LeadsTo position) :=
  inferInstanceAs (Decidable (∃ edge ∈ block.successors, edge.target.index.toNat = position))

/-- The number of the block at a position. -/
def BlockId.ofPosition (position : Nat) : BlockId := ⟨UInt32.ofNat position⟩

private theorem BlockId.toNat_ofPosition {position : Nat} (bound : position < UInt32.size) :
    (BlockId.ofPosition position).index.toNat = position :=
  UInt32.toNat_ofNat_of_lt bound

/-- Some sources, and one more at their end unless it is among them. -/
def including (source : BlockId) (sources : List BlockId) : List BlockId :=
  if source ∈ sources then sources else sources ++ [source]

private theorem mem_including (source : BlockId) (sources : List BlockId) :
    source ∈ including source sources := by
  by_cases known : source ∈ sources
  · rw [including, if_pos known]
    exact known
  · rw [including, if_neg known]
    exact List.mem_append_right _ (List.mem_singleton_self _)

private theorem including_including (source : BlockId) (sources : List BlockId) :
    including source (including source sources) = including source sources := by
  rw [including, if_pos (mem_including source sources)]

/-- A block includes a new predecessor among those it has. -/
theorem Block.addPredecessor_eq (block : Block) (source : BlockId) :
    block.addPredecessor source =
      { block with predecessors := including source block.predecessors } := by
  by_cases known : source ∈ block.predecessors
  · simp [addPredecessor, including, known]
  · simp [addPredecessor, including, known]

namespace Procedure

/-- The blocks with their predecessors replaced, position by position. -/
def withSources (blocks : List Block) (sources : Nat → List BlockId) : List Block :=
  blocks.mapIdx fun position block => { block with predecessors := sources position }

@[simp] private theorem getElem?_withSources (blocks : List Block) (sources : Nat → List BlockId)
    (position : Nat) :
    (withSources blocks sources)[position]? =
      blocks[position]?.map fun block => { block with predecessors := sources position } :=
  List.getElem?_mapIdx

@[simp] theorem length_withSources (blocks : List Block) (sources : Nat → List BlockId) :
    (withSources blocks sources).length = blocks.length :=
  List.length_mapIdx

/-- The positions below a bound whose blocks lead to a position, in order. -/
def sourcesBelow (blocks : List Block) (bound position : Nat) : List Nat :=
  (List.range bound).filter fun source =>
    blocks[source]?.any fun block => decide (block.LeadsTo position)

/-- The sources below a bound are the positions below it whose blocks lead there. -/
theorem mem_sourcesBelow {blocks : List Block} {bound position source : Nat} :
    source ∈ sourcesBelow blocks bound position ↔
      source < bound ∧ ∃ block, blocks[source]? = some block ∧ block.LeadsTo position := by
  simp [sourcesBelow, Option.any_eq_true]

/-- The numbers of the sources below a bound. -/
def sourceIds (blocks : List Block) (bound position : Nat) : List BlockId :=
  (sourcesBelow blocks bound position).map BlockId.ofPosition

/-- The next block comes last among the sources if it leads there. -/
theorem sourceIds_succ {blocks : List Block} {bound : Nat} {block : Block}
    (found : blocks[bound]? = some block) (position : Nat) :
    sourceIds blocks (bound + 1) position =
      if block.LeadsTo position
      then sourceIds blocks bound position ++ [.ofPosition bound]
      else sourceIds blocks bound position := by
  rw [sourceIds, sourcesBelow, List.range_succ, List.filter_append]
  by_cases leads : block.LeadsTo position
  · simp [sourceIds, sourcesBelow, found, leads]
  · simp [sourceIds, sourcesBelow, found, leads]

/-- The numbers of sources below a bound are those of smaller positions. -/
theorem ofPosition_notMem_sourceIds {blocks : List Block} {bound : Nat}
    (fits : bound < UInt32.size) (position : Nat) :
    BlockId.ofPosition bound ∉ sourceIds blocks bound position := by
  intro member
  obtain ⟨earlier, known, same⟩ := List.mem_map.mp member
  have below : earlier < bound := (mem_sourcesBelow.mp known).1
  have positions : earlier = bound := by
    rw [← BlockId.toNat_ofPosition fits, ← same, BlockId.toNat_ofPosition (by omega)]
  omega

/-- Recording a source of one position includes it among the sources there. -/
theorem modify_withSources (blocks : List Block) (sources : Nat → List BlockId) (target : Nat)
    (source : BlockId) :
    (withSources blocks sources).modify target (·.addPredecessor source) =
      withSources blocks fun position =>
        if target = position then including source (sources position) else sources position := by
  apply List.ext_getElem?
  intro position
  rw [List.getElem?_modify]
  by_cases same : target = position
  · simp only [same, ↓reduceIte, getElem?_withSources, Option.map_eq_map, Option.map_map,
      Block.addPredecessor_eq]
    rfl
  · simp [same]

/-- Recording a source at some targets adds it once to each block that is a target. -/
theorem recordTargets_withSources (source : BlockId) (blocks : List Block)
    (sources : Nat → List BlockId) (targets : List BlockId) :
    recordTargets source (withSources blocks sources) targets =
      withSources blocks fun position =>
        if ∃ target ∈ targets, target.index.toNat = position
        then including source (sources position) else sources position := by
  induction targets generalizing sources with
  | nil => simp [recordTargets]
  | cons first rest ih =>
      have step : recordTargets source (withSources blocks sources) (first :: rest) =
          recordTargets source
            ((withSources blocks sources).modify first.index.toNat (·.addPredecessor source))
            rest := rfl
      rw [step, modify_withSources, ih]
      congr 1
      funext position
      by_cases here : first.index.toNat = position
      · simp [here, including_including]
      · simp [here]

private theorem leadsTo_iff_targets (block : Block) (position : Nat) :
    (∃ target ∈ block.targets, target.index.toNat = position) ↔ block.LeadsTo position := by
  constructor
  · rintro ⟨target, member, there⟩
    obtain ⟨edge, held, rfl⟩ := List.mem_map.mp member
    exact ⟨edge, held, there⟩
  · rintro ⟨edge, held, there⟩
    exact ⟨edge.target, List.mem_map_of_mem held, there⟩

private theorem recordEdges_append (blocks : List Block) (first second : List (Block × Nat)) :
    recordEdges blocks (first ++ second) = recordEdges (recordEdges blocks first) second :=
  List.foldl_append

/-- **The loop over the sources.** After the sources below a bound, each block has
the numbers of those that lead to it. -/
theorem recordEdges_take {blocks : List Block} (fits : blocks.length ≤ UInt32.size) {bound : Nat}
    (inside : bound ≤ blocks.length) :
    recordEdges (withSources blocks fun _ => []) (blocks.zipIdx.take bound) =
      withSources blocks (sourceIds blocks bound) := by
  induction bound with
  | zero => rfl
  | succ bound ih =>
      obtain ⟨block, found⟩ : ∃ block, blocks[bound]? = some block :=
        ⟨_, List.getElem?_eq_getElem inside⟩
      have listed : blocks.zipIdx[bound]? = some (block, bound) := by
        rw [List.getElem?_zipIdx, found]
        simp
      rw [List.take_add_one, listed, recordEdges_append, ih (Nat.le_of_succ_le inside)]
      change recordTargets (.ofPosition bound) _ block.targets = _
      rw [recordTargets_withSources]
      congr 1
      funext position
      -- The source is new: the numbers recorded so far are those of smaller positions.
      have fresh : BlockId.ofPosition bound ∉ sourceIds blocks bound position :=
        ofPosition_notMem_sourceIds (Nat.lt_of_lt_of_le inside fits) position
      simp only [leadsTo_iff_targets, sourceIds_succ found, including, if_neg fresh]

/-- Clearing all predecessors is replacing them by none. -/
theorem map_clear (blocks : List Block) :
    blocks.map (fun block => { block with predecessors := [] }) =
      withSources blocks fun _ => [] := by
  apply List.ext_getElem?
  intro position
  rw [List.getElem?_map, getElem?_withSources]

private theorem withSources_withSources (blocks : List Block) (first second : Nat → List BlockId) :
    withSources (withSources blocks first) second = withSources blocks second := by
  apply List.ext_getElem?
  intro position
  simp only [getElem?_withSources, Option.map_map]
  rfl

/-- Recorded predecessors make no difference to where the blocks lead. -/
theorem sourceIds_withSources (blocks : List Block) (sources : Nat → List BlockId) (bound : Nat) :
    sourceIds (withSources blocks sources) bound = sourceIds blocks bound := by
  funext position
  simp only [sourceIds, sourcesBelow, getElem?_withSources, Option.any_map]
  rfl

/-- Fingerprints leave predecessors out. -/
theorem foldl_fold_withSources (blocks : List Block) (sources : Nat → List BlockId)
    (sum : UInt32) :
    (withSources blocks sources).foldl Block.fold sum = blocks.foldl Block.fold sum := by
  induction blocks generalizing sources sum with
  | nil => rfl
  | cons block rest ih =>
      rw [withSources, List.mapIdx_cons, List.foldl_cons, List.foldl_cons]
      exact ih (fun position => sources (position + 1)) _

variable (procedure : Procedure)

/-- Whether every edge leads to a block depends on the edges alone. -/
theorem checkSuccessors_eq_ok_iff :
    procedure.checkSuccessors = .ok () ↔
      ∀ block ∈ procedure.blocks, ∀ edge ∈ block.successors,
        procedure.scope.blocks edge.target := by
  have accepted : procedure.checkSuccessors = .ok () ↔ procedure.danglingSuccessor? = none := by
    rw [checkSuccessors]
    cases procedure.danglingSuccessor? <;> simp [refuse]
  rw [accepted]
  simp [danglingSuccessor?, Block.targets, hasBlock, scope]

/-- An edge to a missing block is what the whole check finds first. -/
theorem check_of_checkSuccessors {fault : Fault}
    (refused : procedure.checkSuccessors = .error fault) : procedure.check = .error fault := by
  rw [checkSuccessors] at refused
  rw [check, dangling?]
  cases dangling : procedure.danglingSuccessor? with
  | none => simp [dangling, refuse] at refused
  | some reference => simpa [dangling, refuse] using refused

/-- Where all edges lead to blocks, rebuilding records for each block the blocks that lead to it,
in order. -/
theorem rebuildPredecessors_of_ok (fits : procedure.blocks.length ≤ UInt32.size)
    (leading : procedure.checkSuccessors = .ok ()) :
    procedure.rebuildPredecessors = .ok { procedure with
      blocks := withSources procedure.blocks
        (sourceIds procedure.blocks procedure.blocks.length) } := by
  have all : procedure.blocks.zipIdx.take procedure.blocks.length = procedure.blocks.zipIdx :=
    List.take_of_length_le (by simp)
  have recorded := recordEdges_take fits (Nat.le_refl procedure.blocks.length)
  rw [all] at recorded
  simp only [rebuildPredecessors, leading, map_clear, recorded]

/-- Rebuilding is refused exactly as the check of edges is. -/
theorem rebuildPredecessors_eq_error_iff (fault : Fault) :
    procedure.rebuildPredecessors = .error fault ↔ procedure.checkSuccessors = .error fault := by
  rw [rebuildPredecessors]
  cases procedure.checkSuccessors <;> simp

/-- Rebuilding is refused exactly if some edge leads outside. -/
theorem exists_rebuildPredecessors_eq_error_iff :
    (∃ fault, procedure.rebuildPredecessors = .error fault) ↔
      ∃ block ∈ procedure.blocks, ∃ edge ∈ block.successors,
        procedure.blocks.length ≤ edge.target.index.toNat := by
  have refused : (∃ fault, procedure.checkSuccessors = .error fault) ↔
      ¬ procedure.checkSuccessors = .ok () := by
    cases procedure.checkSuccessors <;> simp
  simp only [rebuildPredecessors_eq_error_iff, refused, checkSuccessors_eq_ok_iff, scope,
    Classical.not_forall, Nat.not_lt, exists_prop]

/-- A refused command changes nothing in the session. -/
theorem run_rebuildPredecessors_of_error {session : Session} {fault : Fault}
    (refused : session.procedure.rebuildPredecessors = .error fault) :
    Command.rebuildPredecessors.run.run.run session = (.error (.fault fault), session) := by
  change (Edit.succeed session.procedure.rebuildPredecessors >>= _ : Edit Reply).run.run session = _
  rw [refused]
  rfl

/-- The numbers recorded for a position are those of all blocks that lead to it. -/
theorem map_toNat_sourceIds {blocks : List Block} (fits : blocks.length ≤ UInt32.size)
    (position : Nat) :
    (sourceIds blocks blocks.length position).map (fun source => source.index.toNat) =
      sourcesBelow blocks blocks.length position := by
  rw [sourceIds, List.map_map]
  refine (List.map_congr_left fun source member => ?_).trans (List.map_id _)
  exact BlockId.toNat_ofPosition (Nat.lt_of_lt_of_le (mem_sourcesBelow.mp member).1 fits)

/-- Other predecessors leave the edges, and so the check of the edges, as they are. -/
theorem checkSuccessors_withSources (leading : procedure.checkSuccessors = .ok ())
    (sources : Nat → List BlockId) :
    { procedure with blocks := withSources procedure.blocks sources }.checkSuccessors = .ok () := by
  rw [checkSuccessors_eq_ok_iff] at leading ⊢
  intro block member edge held
  obtain ⟨position, inside, rfl⟩ := List.mem_mapIdx.mp member
  have kept := leading _ (List.getElem_mem inside) edge held
  simpa [scope] using kept

/-- **Rebuilding predecessors is exact.** It is refused exactly when an edge leads
outside, with the fault that the check gives, and then nothing changes. Otherwise
each block gets, in strictly increasing order, the positions of the blocks that
lead to it. Nothing else changes, so the fingerprint stays; and rebuilding again
gives the same. -/
theorem rebuildPredecessors_exact (procedure : Procedure)
    (fits : procedure.blocks.length ≤ UInt32.size) :
    ((∃ fault, procedure.rebuildPredecessors = .error fault) ↔
        ∃ block ∈ procedure.blocks, ∃ edge ∈ block.successors,
          procedure.blocks.length ≤ edge.target.index.toNat) ∧
      (∀ fault, procedure.rebuildPredecessors = .error fault →
        procedure.check = .error fault ∧
          ∀ session : Session, session.procedure = procedure →
            Command.rebuildPredecessors.run.run.run session = (.error (.fault fault), session)) ∧
      ∀ rebuilt, procedure.rebuildPredecessors = .ok rebuilt →
        (∃ sources : Nat → List BlockId,
          rebuilt = { procedure with blocks := withSources procedure.blocks sources } ∧
            ∀ position < procedure.blocks.length,
              ((sources position).map fun source => source.index.toNat).Pairwise (· < ·) ∧
                ∀ source, source ∈ (sources position).map (fun source => source.index.toNat) ↔
                  ∃ block, procedure.blocks[source]? = some block ∧ block.LeadsTo position) ∧
        rebuilt.fingerprint = procedure.fingerprint ∧
        rebuilt.rebuildPredecessors = .ok rebuilt := by
  refine ⟨procedure.exists_rebuildPredecessors_eq_error_iff, ?_, ?_⟩
  · intro fault refused
    refine ⟨?_, ?_⟩
    · exact procedure.check_of_checkSuccessors
        ((procedure.rebuildPredecessors_eq_error_iff fault).mp refused)
    · rintro session rfl
      exact run_rebuildPredecessors_of_error refused
  · intro rebuilt succeeded
    have leading : procedure.checkSuccessors = .ok () := by
      cases outcome : procedure.checkSuccessors with
      | ok done => rfl
      | error fault =>
          rw [(procedure.rebuildPredecessors_eq_error_iff fault).mpr outcome] at succeeded
          cases succeeded
    rw [procedure.rebuildPredecessors_of_ok fits leading] at succeeded
    cases succeeded
    refine ⟨⟨sourceIds procedure.blocks procedure.blocks.length, rfl, ?_⟩, ?_, ?_⟩
    · intro position _
      rw [map_toNat_sourceIds fits]
      refine ⟨List.pairwise_lt_range.filter _, fun source => ?_⟩
      rw [mem_sourcesBelow]
      refine ⟨And.right, fun leads => ⟨?_, leads⟩⟩
      obtain ⟨block, found, -⟩ := leads
      exact (List.getElem?_eq_some_iff.mp found).1
    · simp only [fingerprint, foldl_fold_withSources]
    · let sources := sourceIds procedure.blocks procedure.blocks.length
      have again := rebuildPredecessors_of_ok
        { procedure with blocks := withSources procedure.blocks sources }
        (by rwa [length_withSources]) (procedure.checkSuccessors_withSources leading sources)
      simpa only [withSources_withSources, length_withSources, sourceIds_withSources] using again

/-- A block with a stale predecessor, an edge to itself and two edges to the other. -/
theorem rebuildPredecessors_exact_stale :
    let first : Block := ⟨⟨7⟩, .one, [], [⟨⟨1⟩, .one⟩, ⟨⟨0⟩, .one⟩, ⟨⟨1⟩, .one⟩], [⟨9⟩]⟩
    let second : Block := ⟨⟨3⟩, .one, [], [⟨⟨1⟩, .one⟩], []⟩
    let procedure : Procedure := { Procedure.empty with blocks := [first, second] }
    let rebuilt : Procedure := { procedure with
      blocks := [{ first with predecessors := [⟨0⟩] }, { second with predecessors := [⟨0⟩, ⟨1⟩] }] }
    procedure.blocks.length ≤ UInt32.size ∧ procedure.rebuildPredecessors = .ok rebuilt ∧
      rebuilt.fingerprint = procedure.fingerprint ∧ rebuilt.rebuildPredecessors = .ok rebuilt := by
  intro first second procedure rebuilt
  have fits : procedure.blocks.length ≤ UInt32.size := by decide
  have succeeded : procedure.rebuildPredecessors = .ok rebuilt := rfl
  exact ⟨fits, succeeded, ((rebuildPredecessors_exact procedure fits).2.2 rebuilt succeeded).2⟩

end Procedure

end BackendIR
