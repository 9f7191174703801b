import BackendIR.Proofs.Walk.Sites
import BackendIR.Proofs.Session.Edit

/-!
# Updating walks

An updating walk asks its visitor about the operands that a reading walk shows, in
the same order and with the same accesses, whatever the visitor answers on the
way, and stores the answers (`BackendIR.Instr.run_updateOperands`). A refused
survey keeps the visitor from being asked at all, also where a reading walk would
have shown some operands.

To speak of the calls that a walk makes, a visitor can be made to record them
(`BackendIR.recording`), which changes nothing else
(`BackendIR.run_ask_recording`).
-/

namespace BackendIR

variable {σ α β : Type}

/-- Ask a visitor about things one after another. -/
def ask (visitor : α → Access → StateM σ β) (offers : List (α × Access)) : StateM σ (List β) :=
  offers.mapM fun offer => visitor offer.1 offer.2

/-- A call of a visitor: the thing offered, its access, and the answer. -/
structure Call (α β : Type) where
  thing : α
  access : Access
  answer : β

/-- The visitor, made to record its calls in order. -/
def recording (visitor : α → Access → StateM σ β) :
    α → Access → StateM (List (Call α β) × σ) β :=
  fun thing access (calls, state) =>
    let (answer, next) := (visitor thing access).run state
    (answer, calls ++ [⟨thing, access, answer⟩], next)

theorem run_ask_nil (visitor : α → Access → StateM σ β) (state : σ) :
    (ask visitor []).run state = ([], state) := rfl

/-- The answer to the first offer comes first, and the others are made in the state that it
leaves. -/
theorem run_ask_cons (visitor : α → Access → StateM σ β) (offer : α × Access)
    (rest : List (α × Access)) (state : σ) :
    (ask visitor (offer :: rest)).run state =
      let first := (visitor offer.1 offer.2).run state
      let later := (ask visitor rest).run first.2
      (first.1 :: later.1, later.2) := by
  rw [ask, List.mapM_cons]
  rfl

/-- Every offer has one answer. -/
theorem length_ask (visitor : α → Access → StateM σ β) (offers : List (α × Access)) (state : σ) :
    ((ask visitor offers).run state).1.length = offers.length := by
  induction offers generalizing state with
  | nil => rfl
  | cons offer rest ih =>
      rw [run_ask_cons]
      exact congrArg Nat.succ (ih _)

/-- An offer and its answer as a call. -/
def Call.ofOffer (offer : α × Access) (answer : β) : Call α β := ⟨offer.1, offer.2, answer⟩

/-- Calls made of all offers tell the offers. -/
theorem map_offer_zipWith {offers : List (α × Access)} {answers : List β}
    (complete : answers.length = offers.length) :
    (List.zipWith Call.ofOffer offers answers).map (fun call => (call.thing, call.access)) =
      offers := by
  induction offers generalizing answers with
  | nil => rfl
  | cons offer rest ih =>
      cases answers with
      | nil => cases complete
      | cons answer others =>
          exact congrArg (offer :: ·) (ih (Nat.succ.inj complete))

/-- Recording notes each offer with its answer and changes nothing else. -/
theorem run_ask_recording (visitor : α → Access → StateM σ β) (offers : List (α × Access))
    (calls : List (Call α β)) (state : σ) :
    (ask (recording visitor) offers).run (calls, state) =
      let asked := (ask visitor offers).run state
      (asked.1, calls ++ List.zipWith Call.ofOffer offers asked.1, asked.2) := by
  induction offers generalizing calls state with
  | nil =>
      simp only [run_ask_nil, List.zipWith_nil_left, List.append_nil]
  | cons offer rest ih =>
      let first := (visitor offer.1 offer.2).run state
      have noted : (recording visitor offer.1 offer.2).run (calls, state) =
          (first.1, calls ++ [.ofOffer offer first.1], first.2) := rfl
      rw [run_ask_cons, run_ask_cons, noted]
      simp only [ih, List.zipWith_cons_cons, List.append_assoc, List.singleton_append, first]

namespace Instr

/-- Sites aligned from a position on are visited as they were before the walk: what
is stored on the way lies before the positions that are still to come. -/
theorem run_updateSites (visitor : Operand → Access → StateM σ Operand) {sites : List Site}
    {visited operands : List Operand}
    (positions : sites.map Site.position = List.range' visited.length sites.length)
    (inside : sites.length ≤ operands.length) (state : σ) :
    (updateSites visitor sites (visited ++ operands)).run state =
      let asked := (ask visitor (operands.zip (sites.map Site.access))).run state
      (visited ++ asked.1 ++ operands.drop sites.length, asked.2) := by
  induction sites generalizing visited operands state with
  | nil =>
      change (visited ++ operands, state) = _
      simp only [List.map_nil, List.zip_nil_right, run_ask_nil, List.append_nil, List.length_nil,
        List.drop_zero]
  | cons site rest ih =>
      rw [List.map_cons, List.length_cons, List.range'_succ, List.cons.injEq] at positions
      obtain ⟨here, later⟩ := positions
      cases operands with
      | nil => cases inside
      | cons operand others =>
          have found : (visited ++ operand :: others)[site.position]? = some operand := by
            rw [here, List.getElem?_append_right (Nat.le_refl _), Nat.sub_self,
              List.getElem?_cons_zero]
          have stored (answer : Operand) : (visited ++ operand :: others).set site.position answer =
              (visited ++ [answer]) ++ others := by
            rw [here, List.set_append_right _ _ (Nat.le_refl _), Nat.sub_self, List.set_cons_zero,
              List.append_cons]
          have grown (answer : Operand) : (visited ++ [answer]).length = visited.length + 1 :=
            List.length_append
          have stepped :
              (updateSites visitor (site :: rest) (visited ++ operand :: others)).run state =
                let first := (visitor operand site.access).run state
                (updateSites visitor rest (visited ++ [first.1] ++ others)).run first.2 := by
            rw [updateSites, found]
            simp only [stored]
            rfl
          rw [stepped, ih (by rwa [grown]) (Nat.le_of_succ_le_succ inside), List.map_cons,
            List.zip_cons_cons, run_ask_cons]
          simp

/-- **The walk as questions.** An accepted walk asks about what a reading walk shows,
and the answers take the place of the first operands. -/
theorem run_updateOperands {instr : Instr} {table : ConventionTable}
    (accepted : (instr.survey table).outcome = .ok ())
    (visitor : Operand → Access → StateM σ Operand) (state : σ) :
    (instr.updateOperands table visitor).run state =
      let asked := (ask visitor (instr.sightings table).1).run state
      (.ok { instr with operands := asked.1 ++ instr.operands.drop asked.1.length }, asked.2) := by
  have aligned := instr.survey_aligned table
  have positions : (instr.survey table).sites.map Site.position =
      List.range' ([] : List Operand).length (instr.survey table).sites.length :=
    aligned.positions.trans List.range_eq_range'
  have opened : (instr.updateOperands table visitor).run state =
      let walked :=
        (updateSites visitor (instr.survey table).sites ([] ++ instr.operands)).run state
      (.ok { instr with operands := walked.1 }, walked.2) := by
    simp only [updateOperands, accepted]
    rfl
  rw [opened, run_updateSites visitor positions aligned.length_le state]
  simp only [← sightings_eq_zip, length_ask, length_sightings, List.nil_append]

/-- A refused walk calls no visitor and leaves its state as it was. -/
theorem run_updateOperands_of_error {instr : Instr} {table : ConventionTable} {fault : Fault}
    (refused : (instr.survey table).outcome = .error fault)
    (visitor : Operand → Access → StateM σ Operand) (state : σ) :
    (instr.updateOperands table visitor).run state = (.error fault, state) := by
  simp only [updateOperands, refused]
  rfl

/-- The site at an index is that of the same position. -/
theorem position_eq_of_getElem? {instr : Instr} {table : ConventionTable} {k : Nat} {site : Site}
    (listed : (instr.survey table).sites[k]? = some site) : site.position = k := by
  have positions := (instr.survey_aligned table).positions
  obtain ⟨inside, -⟩ := List.getElem?_eq_some_iff.mp listed
  have same : ((instr.survey table).sites.map Site.position)[k]? = some k := by
    rw [positions, List.getElem?_range inside]
  rw [List.getElem?_map, listed] at same
  exact Option.some.inj same

/-- Positions that no site has are those behind the sites. -/
theorem length_sites_le_of_unvisited {instr : Instr} {table : ConventionTable} {position : Nat}
    (unvisited : ∀ site ∈ (instr.survey table).sites, site.position ≠ position) :
    (instr.survey table).sites.length ≤ position := by
  apply Nat.le_of_not_lt
  intro inside
  obtain ⟨site, listed⟩ : ∃ site, (instr.survey table).sites[position]? = some site :=
    ⟨_, List.getElem?_eq_getElem inside⟩
  exact unvisited site (List.mem_of_getElem? listed) (position_eq_of_getElem? listed)

/-- A walk shows the operand at each site in the place of the site. -/
theorem getElem?_sightings {instr : Instr} {table : ConventionTable} {k : Nat} {site : Site}
    (listed : (instr.survey table).sites[k]? = some site) :
    ∃ operand, instr.operands[site.position]? = some operand ∧
      (instr.sightings table).1[k]? = some (operand, site.access) := by
  have here := position_eq_of_getElem? listed
  obtain ⟨inside, -⟩ := List.getElem?_eq_some_iff.mp listed
  have bounded : k < instr.operands.length :=
    Nat.lt_of_lt_of_le inside (instr.survey_aligned table).length_le
  obtain ⟨operand, found⟩ : ∃ operand, instr.operands[k]? = some operand :=
    ⟨_, List.getElem?_eq_getElem bounded⟩
  refine ⟨operand, here.symm ▸ found, ?_⟩
  rw [sightings_eq_zip, List.getElem?_zip_eq_some, List.getElem?_map, listed]
  exact ⟨found, rfl⟩

/-- The first operands are replaced by as many answers, and those behind stay. -/
theorem getElem?_append_drop_of_le {answers operands : List Operand} {position : Nat}
    (behind : answers.length ≤ position) :
    (answers ++ operands.drop answers.length)[position]? = operands[position]? := by
  rw [List.getElem?_append_right behind, List.getElem?_drop, Nat.add_sub_cancel' behind]

end Instr

/-- No manner of visiting an instruction succeeds if its survey is refused. -/
theorem Visit.run_of_error {instr : Instr} {table : ConventionTable} {fault : Fault}
    (refused : (instr.survey table).outcome = .error fault) (manner : Visit) :
    (manner.run instr table).2 = .error fault := by
  have updated {σ : Type} (visitor : Operand → Access → StateM σ Operand) (state : σ) :
      ((instr.updateOperands table visitor).run state).1 = .error fault :=
    congrArg Prod.fst (Instr.run_updateOperands_of_error refused visitor state)
  cases manner with
  | sites =>
      simp only [Visit.run, refused]
      rfl
  | operands =>
      simp only [Visit.run, Instr.sightings, refused]
      rfl
  | replace rules => exact updated _ _
  | wholes rules => exact updated _ _
  | temps rules => exact updated _ _
  | registers rules => exact updated _ _
  | slots rules => exact updated _ _

/-- A command for a refused walk gives the fault and leaves the session as it was. -/
theorem Command.run_visit_of_error {session : Session} {id : BlockId} {block : Block}
    {position : Nat} {instr : Instr} {fault : Fault}
    (placed : session.procedure.block? id = some block)
    (found : block.instrs[position]? = some instr)
    (refused : (instr.survey session.table).outcome = .error fault) (manner : Visit) :
    (Command.visit id position manner).run.run.run session = (.error (.fault fault), session) := by
  rw [Command.run, Edit.run_bind_of_ok (Edit.run_instr placed found)]
  change (Edit.succeed (manner.run instr session.table).2 >>= _ : Edit Reply).run.run session = _
  rw [Visit.run_of_error refused]
  rfl

/-- **Walks follow the survey.** If the survey of an instruction is refused, every
updating walk gives the same fault without asking its visitor, and the instruction
stays as it is. Otherwise the visitor is called once for each site in order, with the
operand and the access that the instruction had there before the walk; so its calls
are what a reading walk shows. The operands at the sites become its answers, and all
else stays. -/
theorem Instr.updateOperands_follows_survey (instr : Instr) (table : ConventionTable) :
    (∀ fault, (instr.survey table).outcome = .error fault →
        (∀ (σ : Type) (visitor : Operand → Access → StateM σ Operand) (state : σ),
          (instr.updateOperands table visitor).run state = (.error fault, state)) ∧
        (∀ (σ α : Type) [Part α] (visitor : Visitor σ α) (state : σ),
          (instr.updateParts table visitor).run state = (.error fault, state)) ∧
        ∀ (session : Session) (id : BlockId) (block : Block) (position : Nat) (manner : Visit),
          session.table = table → session.procedure.block? id = some block →
          block.instrs[position]? = some instr →
          (Command.visit id position manner).run.run.run session =
            (.error (.fault fault), session)) ∧
      ((instr.survey table).outcome = .ok () →
        ∀ (σ : Type) (visitor : Operand → Access → StateM σ Operand) (state : σ),
          ∃ calls updated final,
            (instr.updateOperands table (recording visitor)).run ([], state) =
              (.ok updated, calls, final) ∧
            (instr.updateOperands table visitor).run state = (.ok updated, final) ∧
            calls.map (fun call => (call.thing, call.access)) = (instr.sightings table).1 ∧
            calls.length = (instr.survey table).sites.length ∧
            (∀ (k : Nat) (site : Site), (instr.survey table).sites[k]? = some site →
              ∃ call, calls[k]? = some call ∧
                instr.operands[site.position]? = some call.thing ∧ call.access = site.access ∧
                updated.operands[site.position]? = some call.answer) ∧
            updated.opcode = instr.opcode ∧ updated.metadata = instr.metadata ∧
            updated.operands.length = instr.operands.length ∧
            ∀ position, (∀ site ∈ (instr.survey table).sites, site.position ≠ position) →
              updated.operands[position]? = instr.operands[position]?) := by
  constructor
  · intro fault refused
    refine ⟨fun σ visitor state => run_updateOperands_of_error refused visitor state,
      fun σ α _ visitor state => run_updateOperands_of_error refused _ state, ?_⟩
    rintro session id block position manner rfl placed found
    exact Command.run_visit_of_error placed found refused manner
  · intro accepted σ visitor state
    have aligned := instr.survey_aligned table
    let asked := (ask visitor (instr.sightings table).1).run state
    have answered : asked.1.length = (instr.survey table).sites.length :=
      (length_ask visitor _ state).trans (instr.length_sightings table)
    have recorded := run_updateOperands accepted (recording visitor) ([], state)
    simp only [run_ask_recording, List.nil_append] at recorded
    refine ⟨_, _, _, recorded, run_updateOperands accepted visitor state, ?_, ?_, ?_, rfl, rfl,
      ?_, ?_⟩
    · exact map_offer_zipWith (length_ask visitor _ state)
    · rw [List.length_zipWith, ← answered, length_ask, Nat.min_self]
    · intro k site listed
      obtain ⟨operand, found, shown⟩ := getElem?_sightings listed
      have inside : k < asked.1.length := answered ▸ (List.getElem?_eq_some_iff.mp listed).1
      obtain ⟨answer, given⟩ : ∃ answer, asked.1[k]? = some answer :=
        ⟨_, List.getElem?_eq_getElem inside⟩
      refine ⟨⟨operand, site.access, answer⟩, ?_, found, rfl, ?_⟩
      · rw [List.getElem?_zipWith, shown, given]
        rfl
      · rw [position_eq_of_getElem? listed]
        exact (List.getElem?_append_left inside).trans given
    · change (asked.1 ++ instr.operands.drop asked.1.length).length = _
      rw [List.length_append, List.length_drop]
      have bounded := aligned.length_le
      omega
    · intro position unvisited
      exact getElem?_append_drop_of_le (answered ▸ length_sites_le_of_unvisited unvisited)

/-- Two shuffles under a visitor that counts its calls and wipes out every operand. A
bad tag in the second group keeps it from being called, though a reading walk shows the
first group. With a good tag, the second group is accessed as if the first were intact. -/
theorem Instr.updateOperands_follows_survey_shuffle :
    let opcode : Opcode := ⟨9, "Shuffle"⟩
    let table := ConventionTable.empty.bind opcode (.derived .shuffle)
    let left : Operand := .temp (.virtual .gp 0)
    let right : Operand := .temp (.virtual .fp 0)
    let shuffle (tag : Operand) : Instr :=
      ⟨opcode, [left, left, .width .w32, right, left, tag, left], .none⟩
    let wipe : Operand → Access → StateM Nat Operand := fun _ _ count => (.special, count + 1)
    let fault : Fault := .malformed "Shuffle" (.notAWidth .special)
    (((shuffle .special).survey table).outcome = .error fault ∧
        ((shuffle .special).sightings table).1.length = 3 ∧
        ((shuffle .special).updateOperands table wipe).run 0 = (.error fault, 0)) ∧
      ((shuffle (.width .w64)).survey table).outcome = .ok () ∧
        ∃ calls updated final,
          ((shuffle (.width .w64)).updateOperands table (recording wipe)).run ([], 0) =
            (.ok updated, calls, final) ∧
          calls.map (fun call => (call.thing, call.access)) =
            [(left, ⟨.use, .gp, .w32⟩), (left, ⟨.define, .gp, .w32⟩),
              (.width .w32, ⟨.use, .gp, .w8⟩), (right, ⟨.use, .fp, .w64⟩),
              (left, ⟨.define, .fp, .w64⟩), (.width .w64, ⟨.use, .gp, .w8⟩)] ∧
          updated.operands[6]? = some left := by
  intro opcode table left right shuffle wipe fault
  have refused : ((shuffle .special).survey table).outcome = .error fault := rfl
  have accepted : ((shuffle (.width .w64)).survey table).outcome = .ok () := rfl
  refine ⟨⟨refused, rfl, ?_⟩, accepted, ?_⟩
  · exact ((updateOperands_follows_survey _ table).1 fault refused).1 Nat wipe 0
  · obtain ⟨calls, updated, final, recorded, -, shown, -, -, -, -, -, kept⟩ :=
      (updateOperands_follows_survey _ table).2 accepted Nat wipe 0
    refine ⟨calls, updated, final, recorded, shown.trans rfl, (kept 6 ?_).trans rfl⟩
    decide

end BackendIR
