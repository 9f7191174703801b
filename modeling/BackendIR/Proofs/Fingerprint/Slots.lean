import BackendIR.Proofs.Fingerprint.Edits
import BackendIR.Proofs.Session.Edit

/-!
# Fingerprints show growth and placement

A slot enters a fingerprint with its size and its offset, each times an odd number. No other
size and no other offset gives the same product, even where the product wraps. So whenever a
slot gets larger or comes to lie elsewhere, the fingerprint of the procedure changes, and
otherwise it does not (`BackendIR.Procedure.fingerprint_shows_slot_edits`). A slot that was never
placed counts as one at offset zero.
-/

namespace BackendIR

private theorem reversible_size : Reversible 3 := ⟨2863311531, rfl⟩

namespace StackSlot

variable {slot : StackSlot}

/-- A slot without an offset grows to the larger size. -/
theorem growTo_of_free (free : slot.offset? = none) (size : UInt32) :
    slot.growTo size = .ok { slot with size := max slot.size size } := by
  rw [growTo, free]

/-- A slot with an offset refuses to grow and names the offset. -/
theorem growTo_of_placed {offset : Int32} (placed : slot.offset? = some offset) (size : UInt32) :
    slot.growTo size = .error (.slotPlaced slot.id offset) := by
  rw [growTo, placed]

/-- The fingerprint of a slot shows every change of its size. -/
theorem fingerprint_resize (size : UInt32) :
    { slot with size }.fingerprint = slot.fingerprint ↔ size = slot.size := by
  unfold fingerprint isSpill
  rw [UInt32.add_left_inj, UInt32.add_right_inj]
  exact reversible_size.mul_injective.eq_iff

/-- Only a size that is not there yet shows. -/
theorem fingerprint_grown (size : UInt32) :
    { slot with size := max slot.size size }.fingerprint ≠ slot.fingerprint ↔
      slot.size < size := by
  have larger : max slot.size size = if slot.size ≤ size then size else slot.size := rfl
  rw [Ne, fingerprint_resize, larger]
  by_cases grows : slot.size < size
  · rw [if_pos (UInt32.le_of_lt grows)]
    exact iff_of_true (UInt32.ne_of_lt grows).symm grows
  · have kept : (if slot.size ≤ size then size else slot.size) = slot.size := by
      split
      · exact UInt32.le_antisymm (UInt32.not_lt.mp grows) ‹_›
      · rfl
    exact iff_of_false (not_not.mpr kept) grows

/-- Placing a slot shows in its fingerprint unless the offset is the old one, where none counts as
zero. -/
theorem fingerprint_place (offset : Int32) :
    (slot.place offset).fingerprint = slot.fingerprint ↔ offset = slot.offset?.getD 0 := by
  have words (first second : Int32) : first.toUInt32 = second.toUInt32 ↔ first = second :=
    ⟨congrArg Int32.ofUInt32, congrArg Int32.toUInt32⟩
  rw [← words]
  unfold fingerprint isSpill place
  rw [UInt32.add_right_inj]
  -- Offsets have the multiplier of targets.
  exact reversible_target.mul_injective.eq_iff

end StackSlot

namespace Command

/-- A command to grow an existing slot stores the slot that has grown, or gives its fault and
changes nothing. -/
theorem run_growSlot {session : Session} {id : SlotId} {slot : StackSlot}
    (found : session.procedure.slot? id = some slot) (size : UInt32) :
    (Command.growSlot id size).run.run.run session =
      match slot.growTo size with
      | .ok grown =>
          (.ok .done, { session with procedure := session.procedure.setSlot id grown })
      | .error fault => (.error (.fault fault), session) := by
  rw [Command.run, Edit.run_bind_of_ok (Edit.run_slot found)]
  cases slot.growTo size <;> rfl

/-- A slot that has no offset grows, or nothing changes. -/
theorem growSlot_cases (session : Session) (id : SlotId) (size : UInt32) :
    (∃ slot, session.procedure.slot? id = some slot ∧ slot.offset? = none ∧
        (Command.growSlot id size).run.run.run session =
          (.ok .done, { session with
            procedure := session.procedure.setSlot id
              { slot with size := max slot.size size } })) ∨
      ∃ refusal, (Command.growSlot id size).run.run.run session = (.error refusal, session) := by
  cases found : session.procedure.slot? id with
  | none =>
      refine .inr ⟨.outOfRange, ?_⟩
      rw [Command.run, Edit.run_bind_of_error (Edit.run_slot_of_missing found)]
  | some slot =>
      cases placed : slot.offset? with
      | none =>
          refine .inl ⟨slot, rfl, placed, ?_⟩
          rw [run_growSlot found, StackSlot.growTo_of_free placed]
      | some offset =>
          refine .inr ⟨.fault (.slotPlaced slot.id offset), ?_⟩
          rw [run_growSlot found, StackSlot.growTo_of_placed placed]

end Command

namespace Procedure

variable {procedure : Procedure} {position : Nat} {slot : StackSlot}

/-- Growing a slot changes the fingerprint of the procedure exactly if more bytes are asked for
than the slot has. -/
theorem fingerprint_grow_slot (found : procedure.slots[position]? = some slot) (size : UInt32) :
    { procedure with
        slots := procedure.slots.set position
          { slot with size := max slot.size size } }.fingerprint ≠ procedure.fingerprint ↔
      slot.size < size := by
  rw [Ne, fingerprint_set_slot found]
  exact StackSlot.fingerprint_grown size

/-- Placing a slot changes the fingerprint of the procedure exactly if the offset does not count
as the old one. -/
theorem fingerprint_place_slot (found : procedure.slots[position]? = some slot)
    (offset : Int32) :
    { procedure with slots := procedure.slots.set position (slot.place offset) }.fingerprint ≠
        procedure.fingerprint ↔
      offset ≠ slot.offset?.getD 0 := by
  rw [Ne, fingerprint_set_slot found, StackSlot.fingerprint_place]

/-- **Fingerprints show growth and placement.** A slot without an offset can grow, and the
fingerprint changes exactly if more bytes are asked for than it has. Placing a slot changes it
exactly if the offset is another one. The command to let a slot grow shows the same where it is
answered, and leaves the fingerprint as it is where it is refused. -/
theorem fingerprint_shows_slot_edits :
    (∀ (procedure : Procedure) (position : Nat) (slot : StackSlot),
      procedure.slots[position]? = some slot →
      (slot.offset? = none → ∀ size : UInt32, ∃ grown, slot.growTo size = .ok grown ∧
        ({ procedure with slots := procedure.slots.set position grown }.fingerprint ≠
            procedure.fingerprint ↔
          slot.size < size)) ∧
      ∀ offset : Int32,
        ({ procedure with
            slots := procedure.slots.set position (slot.place offset) }.fingerprint ≠
            procedure.fingerprint ↔
          offset ≠ slot.offset?.getD 0)) ∧
      ∀ (session : Session) (id : SlotId) (size : UInt32) (after : Session),
        (∀ reply, (Command.growSlot id size).run.run.run session = (.ok reply, after) →
          ∃ slot, session.procedure.slot? id = some slot ∧ slot.offset? = none ∧
            (after.procedure.fingerprint ≠ session.procedure.fingerprint ↔ slot.size < size)) ∧
        ∀ refusal, (Command.growSlot id size).run.run.run session = (.error refusal, after) →
          after.procedure.fingerprint = session.procedure.fingerprint := by
  constructor
  · intro procedure position slot found
    refine ⟨fun free size => ⟨_, StackSlot.growTo_of_free free size, ?_⟩, ?_⟩
    · exact fingerprint_grow_slot found size
    · exact fingerprint_place_slot found
  · intro session id size after
    rcases Command.growSlot_cases session id size with ⟨slot, found, free, ran⟩ | ⟨refusal, ran⟩
    · rw [ran]
      refine ⟨fun reply answered => ⟨slot, found, free, ?_⟩, fun refusal refused => ?_⟩
      · cases answered
        exact fingerprint_grow_slot found size
      · cases refused
    · rw [ran]
      refine ⟨fun reply answered => ?_, fun other refused => ?_⟩
      · cases answered
      · cases refused
        rfl

/-- In front of a placed slot, an empty one grows as far as it can, stays empty, is placed as
far away as possible and at offset zero; and the placed slot is not let grow. -/
theorem fingerprint_shows_slot_edits_extremes :
    let free : StackSlot := .fresh ⟨0⟩ 0 .spill
    let fixed : StackSlot := ⟨⟨1⟩, 8, .locked, some (-8)⟩
    let procedure (slot : StackSlot) : Procedure :=
      { Procedure.empty with slots := [slot, fixed] }
    let session : Session :=
      { Session.start ConventionTable.empty with procedure := procedure free }
    (procedure free).slots[0]? = some free ∧ free.offset? = none ∧
      (∃ grown, free.growTo 4294967295 = .ok grown ∧
        (procedure grown).fingerprint ≠ (procedure free).fingerprint) ∧
      (∃ grown, free.growTo 0 = .ok grown ∧
        (procedure grown).fingerprint = (procedure free).fingerprint) ∧
      (procedure (free.place (-2147483648))).fingerprint ≠ (procedure free).fingerprint ∧
      (procedure (free.place 0)).fingerprint = (procedure free).fingerprint ∧
      ∃ refusal after, (Command.growSlot ⟨1⟩ 16).run.run.run session = (.error refusal, after) ∧
        after.procedure.fingerprint = (procedure free).fingerprint := by
  intro free fixed procedure session
  have found : (procedure free).slots[0]? = some free := rfl
  obtain ⟨edits, commands⟩ := fingerprint_shows_slot_edits
  obtain ⟨grows, moves⟩ := edits (procedure free) 0 free found
  obtain ⟨large, succeeded, larger⟩ := grows rfl 4294967295
  obtain ⟨same, kept, unchanged⟩ := grows rfl 0
  refine ⟨found, rfl, ⟨large, succeeded, larger.mpr (by decide)⟩,
    ⟨same, kept, not_not.mp (mt unchanged.mp (by decide))⟩, (moves _).mpr (by decide),
    not_not.mp (mt (moves 0).mp (by decide)), ?_⟩
  have refused : (Command.growSlot ⟨1⟩ 16).run.run.run session =
      (.error (.fault (.slotPlaced ⟨1⟩ (-8))), session) := rfl
  exact ⟨_, _, refused, (commands session ⟨1⟩ 16 session).2 _ refused⟩

end Procedure

end BackendIR
