import Mathlib.Order.Bounds.Basic
import BackendIR.Proofs.Fingerprint.Slots
import BackendIR.Session.Script

/-!
# The history of a slot

A slot is asked to grow and to lie at offsets, in any order. Until it first gets an offset it
grows to the largest size asked for; from then on its size stays, and its offset is always the
last one given (`BackendIR.StackSlot.Follows`). Each request keeps that
(`BackendIR.StackSlot.Follows.after`), and so does a run of requests. Put to a procedure, the
requests reach the one slot that they name and nothing else (`BackendIR.Session.play_requests`).
-/

namespace BackendIR

theorem isGreatest_single (only : UInt32) : IsGreatest {size | size ∈ [only]} only :=
  ⟨.head _, fun _ listed => UInt32.le_of_eq (List.mem_singleton.mp listed)⟩

/-- The greatest of some sizes, and of one more. -/
theorem isGreatest_concat {sizes : List UInt32} {greatest : UInt32}
    (known : IsGreatest {size | size ∈ sizes} greatest) (added : UInt32) :
    IsGreatest {size | size ∈ sizes ++ [added]} (max greatest added) := by
  have larger : max greatest added = if greatest ≤ added then added else greatest := rfl
  obtain ⟨member, bound⟩ := known
  rw [larger]
  by_cases less : greatest ≤ added
  · rw [if_pos less]
    refine ⟨List.mem_append_right _ (.head _), fun size listed => ?_⟩
    rcases List.mem_append.mp listed with earlier | last
    · exact UInt32.le_trans (bound earlier) less
    · exact UInt32.le_of_eq (List.mem_singleton.mp last)
  · rw [if_neg less]
    refine ⟨List.mem_append_left _ member, fun size listed => ?_⟩
    rcases List.mem_append.mp listed with earlier | last
    · exact bound earlier
    · rw [List.mem_singleton.mp last]
      exact UInt32.le_of_lt (UInt32.not_le.mp less)

namespace StackSlot

/-- What is asked of a slot: to have a number of bytes, or to lie at an offset. -/
inductive Request where
  | grow (size : UInt32)
  | place (offset : Int32)
  deriving DecidableEq

namespace Request

/-- The offsets that are given, in order. -/
def offsets : List Request → List Int32
  | [] => []
  | .grow _ :: rest => offsets rest
  | .place offset :: rest => offset :: offsets rest

/-- The sizes that are asked for before an offset is given. -/
def earlySizes : List Request → List UInt32
  | .grow size :: rest => size :: earlySizes rest
  | .place _ :: _ | [] => []

private theorem offsets_append (past requests : List Request) :
    offsets (past ++ requests) = offsets past ++ offsets requests := by
  induction past with
  | nil => rfl
  | cons request rest ih =>
      cases request with
      | grow size => exact ih
      | place offset => exact congrArg (offset :: ·) ih

/-- Further sizes count as long as no offset is given. -/
theorem earlySizes_append (past requests : List Request) :
    earlySizes (past ++ requests) =
      earlySizes past ++ if offsets past = [] then earlySizes requests else [] := by
  induction past with
  | nil => rfl
  | cons request rest ih =>
      cases request with
      | grow size => exact congrArg (size :: ·) ih
      | place offset => rfl

end Request

open Request

/-- The slot after a request. A request that is refused changes nothing. -/
def after (slot : StackSlot) : Request → StackSlot
  | .grow size =>
      match slot.growTo size with
      | .ok grown => grown
      | .error _ => slot
  | .place offset => slot.place offset

/-- The slot after several requests in order. -/
def afterAll (slot : StackSlot) (requests : List Request) : StackSlot :=
  requests.foldl after slot

/-- A slot that has grown from a new one by past requests. -/
structure Follows (slot start : StackSlot) (past : List Request) : Prop where
  id_eq : slot.id = start.id
  kind_eq : slot.kind = start.kind
  offset_eq : slot.offset? = (offsets past).getLast?
  size_greatest : IsGreatest {size | size ∈ start.size :: earlySizes past} slot.size

variable {slot start : StackSlot} {past : List Request}

private theorem after_grow_of_free (free : slot.offset? = none) (size : UInt32) :
    slot.after (.grow size) = { slot with size := max slot.size size } := by
  rw [after, growTo_of_free free]

private theorem after_grow_of_placed {offset : Int32} (placed : slot.offset? = some offset)
    (size : UInt32) : slot.after (.grow size) = slot := by
  rw [after, growTo_of_placed placed]

namespace Follows

/-- A new slot follows no requests. -/
theorem fresh (id : SlotId) (size : UInt32) (kind : Kind) :
    (StackSlot.fresh id size kind).Follows (.fresh id size kind) [] where
  id_eq := rfl
  kind_eq := rfl
  offset_eq := rfl
  size_greatest := isGreatest_single size

private theorem offsets_eq_nil (follows : slot.Follows start past) (free : slot.offset? = none) :
    offsets past = [] :=
  List.getLast?_eq_none_iff.mp (follows.offset_eq.symm.trans free)

/-- **One request.** A slot that follows its past requests follows them with one more, accepted or
refused. -/
theorem after (follows : slot.Follows start past) (request : Request) :
    (slot.after request).Follows start (past ++ [request]) := by
  cases request with
  | place offset =>
      refine ⟨follows.id_eq, follows.kind_eq, ?_, ?_⟩
      · rw [offsets_append]
        exact List.getLast?_concat.symm
      · rw [earlySizes_append, earlySizes, ite_self, List.append_nil]
        exact follows.size_greatest
  | grow size =>
      cases placed : slot.offset? with
      | none =>
          -- No offset was given yet, so the size still counts.
          have free := follows.offsets_eq_nil placed
          rw [after_grow_of_free placed]
          refine ⟨follows.id_eq, follows.kind_eq, ?_, ?_⟩
          · rw [offsets_append, free]
            exact placed
          · rw [earlySizes_append, if_pos free]
            exact isGreatest_concat follows.size_greatest size
      | some offset =>
          have given : offsets past ≠ [] := by
            intro free
            rw [follows.offset_eq, free] at placed
            cases placed
          rw [after_grow_of_placed placed]
          refine ⟨follows.id_eq, follows.kind_eq, ?_, ?_⟩
          · rw [offsets_append, offsets, offsets, List.append_nil]
            exact follows.offset_eq
          · rw [earlySizes_append, if_neg given, List.append_nil]
            exact follows.size_greatest

/-- **Runs of requests.** A slot that follows its past requests still does after any further ones.
-/
theorem afterAll (follows : slot.Follows start past) (requests : List Request) :
    (slot.afterAll requests).Follows start (past ++ requests) := by
  induction requests generalizing slot past with
  | nil => simpa [StackSlot.afterAll] using follows
  | cons request rest ih =>
      have later := ih (follows.after request)
      rw [List.append_assoc] at later
      exact later

end Follows

/-- The command that puts a request to the slot with a number. -/
def Request.command (target : SlotId) : Request → Command
  | .grow size => .growSlot target size
  | .place offset => .placeSlot target offset

/-- The script that puts requests to one slot. -/
def Request.script (target : SlotId) (requests : List Request) : List Step :=
  requests.map fun request => .perform (request.command target)

end StackSlot

open StackSlot (Request)

namespace Procedure

variable {procedure : Procedure} {target : SlotId} {slot : StackSlot}

/-- Storing the slot that is there changes nothing. -/
theorem setSlot_of_found (found : procedure.slot? target = some slot) :
    procedure.setSlot target slot = procedure := by
  obtain ⟨inside, rfl⟩ := List.getElem?_eq_some_iff.mp found
  rw [setSlot, List.set_getElem_self]

/-- A slot that was stored over another is found in its place. -/
theorem slot?_setSlot (found : procedure.slot? target = some slot) (other : StackSlot) :
    (procedure.setSlot target other).slot? target = some other := by
  obtain ⟨inside, -⟩ := List.getElem?_eq_some_iff.mp found
  exact List.getElem?_set_self inside

private theorem setSlot_setSlot (first second : StackSlot) :
    (procedure.setSlot target first).setSlot target second = procedure.setSlot target second := by
  rw [setSlot, setSlot, List.set_set]
  rfl

end Procedure

/-! ### One slot of a procedure -/

namespace Session

variable {session : Session} {target : SlotId} {slot : StackSlot}

/-- A request reaches the slot that it names. -/
theorem run_request (found : session.procedure.slot? target = some slot) (request : Request) :
    ((request.command target).run.run.run session).2 =
      { session with procedure := session.procedure.setSlot target (slot.after request) } := by
  cases request with
  | place offset =>
      rw [Request.command, Command.run, Edit.run_bind_of_ok (Edit.run_procedure session), found]
      rfl
  | grow size =>
      rw [Request.command, Command.run_growSlot found, StackSlot.after]
      cases slot.growTo size with
      | ok grown => rfl
      | error fault => rw [Procedure.setSlot_of_found found]

/-- A request to a missing slot changes nothing. -/
theorem run_request_of_missing (missing : session.procedure.slot? target = none)
    (request : Request) : ((request.command target).run.run.run session).2 = session := by
  cases request with
  | place offset =>
      rw [Request.command, Command.run, Edit.run_bind_of_ok (Edit.run_procedure session), missing]
      rfl
  | grow size =>
      rw [Request.command, Command.run,
        Edit.run_bind_of_error (Edit.run_slot_of_missing missing)]

/-- **Requests to one slot.** A script of requests to an existing slot changes that slot alone, to
what the requests in order make of it. -/
theorem play_requests (found : session.procedure.slot? target = some slot)
    (requests : List Request) :
    (session.play (Request.script target requests)).2 =
      { session with
        procedure := session.procedure.setSlot target (slot.afterAll requests) } := by
  induction requests generalizing session slot with
  | nil =>
      change session = { session with procedure := session.procedure.setSlot target slot }
      rw [Procedure.setSlot_of_found found]
  | cons request rest ih =>
      change (((request.command target).run.run.run session).2.play
        (Request.script target rest)).2 = _
      rw [run_request found, ih (Procedure.slot?_setSlot found _)]
      simp only [Procedure.setSlot_setSlot]
      rfl

/-- A script of requests to a missing slot changes nothing. -/
theorem play_requests_of_missing (missing : session.procedure.slot? target = none)
    (requests : List Request) :
    (session.play (Request.script target requests)).2 = session := by
  induction requests with
  | nil => rfl
  | cons request rest ih =>
      change (((request.command target).run.run.run session).2.play
        (Request.script target rest)).2 = _
      rw [run_request_of_missing missing, ih]

/-- Nothing but the slot is touched. -/
theorem play_requests_frame (session : Session) (target : SlotId) (requests : List Request) :
    let final := (session.play (Request.script target requests)).2
    final.procedure.blocks = session.procedure.blocks ∧
      ∀ position, position ≠ target.index.toNat →
        final.procedure.slots[position]? = session.procedure.slots[position]? := by
  cases found : session.procedure.slot? target with
  | none =>
      rw [play_requests_of_missing found]
      exact ⟨rfl, fun _ _ => rfl⟩
  | some slot =>
      rw [play_requests found]
      exact ⟨rfl, fun position other => List.getElem?_set_ne other.symm⟩

end Session

namespace StackSlot

open Request

/-- **The history of a slot decides everything.** Whatever is asked of a new slot, its number and
kind stay; its offset is the last one given; its size is the greatest of the first size and the
sizes asked for before the first offset. It can grow as long as it has no offset, and then no
more, which the fault explains by the slot's number and its present offset. Put to a procedure, the
requests reach that slot, and leave all other slots and all blocks as they are. -/
theorem history_decides (id : SlotId) (size : UInt32) (kind : Kind)
    (requests : List Request) :
    let slot := (fresh id size kind).afterAll requests
    (slot.id = id ∧ slot.kind = kind ∧ slot.offset? = (offsets requests).getLast? ∧
        IsGreatest {bytes | bytes ∈ size :: earlySizes requests} slot.size) ∧
      (∀ more : UInt32, offsets requests = [] → ∃ grown, slot.growTo more = .ok grown) ∧
      (∀ (more : UInt32) (offset : Int32), (offsets requests).getLast? = some offset →
        slot.growTo more = .error (.slotPlaced id offset) ∧ slot.after (.grow more) = slot) ∧
      ∀ (session : Session) (target : SlotId),
        let final := (session.play (script target requests)).2
        final.procedure.blocks = session.procedure.blocks ∧
        (∀ position : Nat, position ≠ target.index.toNat →
          final.procedure.slots[position]? = session.procedure.slots[position]?) ∧
        (session.procedure.slot? target = some (fresh id size kind) →
          final.procedure.slot? target = some slot ∧
          (∀ more : UInt32, offsets requests = [] →
            ((Command.growSlot target more).run.run.run final).1 = .ok .done) ∧
          ∀ (more : UInt32) (offset : Int32), (offsets requests).getLast? = some offset →
            (Command.growSlot target more).run.run.run final =
              (.error (.fault (.slotPlaced id offset)), final)) := by
  intro slot
  have follows : slot.Follows (fresh id size kind) requests :=
    (Follows.fresh id size kind).afterAll requests
  have free (unplaced : offsets requests = []) : slot.offset? = none := by
    rw [follows.offset_eq, unplaced]
    rfl
  have refused {offset : Int32} (last : (offsets requests).getLast? = some offset)
      (more : UInt32) : slot.growTo more = .error (.slotPlaced id offset) := by
    rw [growTo_of_placed (follows.offset_eq.trans last), follows.id_eq]
    rfl
  refine ⟨⟨follows.id_eq, follows.kind_eq, follows.offset_eq, follows.size_greatest⟩,
    fun more unplaced => ⟨_, growTo_of_free (free unplaced) more⟩,
    fun more offset last => ⟨refused last more, ?_⟩, fun session target => ?_⟩
  · exact after_grow_of_placed (follows.offset_eq.trans last) more
  intro final
  obtain ⟨blocks, others⟩ := session.play_requests_frame target requests
  refine ⟨blocks, others, fun found => ?_⟩
  have reached : final.procedure.slot? target = some slot := by
    change (session.play (script target requests)).2.procedure.slot? target = _
    rw [Session.play_requests found]
    exact Procedure.slot?_setSlot found slot
  refine ⟨reached, fun more unplaced => ?_, fun more offset last => ?_⟩
  · rw [Command.run_growSlot reached, growTo_of_free (free unplaced)]
  · rw [Command.run_growSlot reached, refused last]

/-- The second of two slots, with a number of its own, grows, is placed twice, and is asked to grow
in between and afterwards. -/
theorem history_decides_placed_twice :
    let start : StackSlot := .fresh ⟨3⟩ 4 .spill
    let other : StackSlot := .fresh ⟨0⟩ 1 .locked
    let early : List Request := [.grow 8, .grow 2]
    let requests : List Request := early ++ [.place (-16), .grow 9, .place (-24), .grow 1]
    let session : Session :=
      { Session.start ConventionTable.empty with
        procedure := { Procedure.empty with slots := [other, start] } }
    let grown := (session.play (script ⟨1⟩ early)).2
    let final := (session.play (script ⟨1⟩ requests)).2
    session.procedure.slot? ⟨1⟩ = some start ∧
      (offsets early = [] ∧ (∃ larger, (start.afterAll early).growTo 16 = .ok larger) ∧
        ((Command.growSlot ⟨1⟩ 16).run.run.run grown).1 = .ok .done) ∧
      ((offsets requests).getLast? = some (-24) ∧
        (start.afterAll requests).growTo 0 = .error (.slotPlaced ⟨3⟩ (-24)) ∧
        (start.afterAll requests).after (.grow 0) = start.afterAll requests ∧
        (Command.growSlot ⟨1⟩ 0).run.run.run final =
          (.error (.fault (.slotPlaced ⟨3⟩ (-24))), final)) ∧
      final.procedure.slot? ⟨1⟩ = some ⟨⟨3⟩, 8, .spill, some (-24)⟩ ∧
      final.procedure.slots[0]? = some other := by
  intro start other early requests session grown final
  have found : session.procedure.slot? ⟨1⟩ = some start := rfl
  obtain ⟨-, grows, -, sessions⟩ := history_decides ⟨3⟩ 4 .spill early
  obtain ⟨-, -, reaches⟩ := sessions session ⟨1⟩
  obtain ⟨-, -, refuses, later⟩ := history_decides ⟨3⟩ 4 .spill requests
  obtain ⟨-, others, reachesLater⟩ := later session ⟨1⟩
  obtain ⟨reached, -, stays⟩ := reachesLater found
  exact ⟨found, ⟨rfl, grows 16 rfl, (reaches found).2.1 16 rfl⟩,
    ⟨rfl, (refuses 0 (-24) rfl).1, (refuses 0 (-24) rfl).2, stays 0 (-24) rfl⟩,
    reached.trans rfl, others 0 (by decide)⟩

end StackSlot

end BackendIR
