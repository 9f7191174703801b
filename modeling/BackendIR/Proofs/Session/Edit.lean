import BackendIR.Session.Command

/-!
# Edits step by step

Commands are edits made of a few steps. To show that a command keeps an invariant of
the session, it is taken apart into its steps: each step keeps the invariant and
gives a value of which something is known, and the next step may rely on that
(`BackendIR.Edit.Keeps.bind`). The invariant has to hold also where a step is
refused, since what was edited before stays.
-/

namespace BackendIR.Edit

variable {α β : Type}

/-! ### Running -/

/-- An edit goes on from the value and the session that its first part has left. -/
theorem run_bind_of_ok {edit : Edit α} {next : α → Edit β} {session after : Session} {value : α}
    (ran : edit.run.run session = (.ok value, after)) :
    (edit >>= next).run.run session = (next value).run.run after := by
  rw [ExceptT.run_bind, StateT.run_bind, ran]
  rfl

/-- An edit ends with the refusal of its first part, and keeps what that part has changed. -/
theorem run_bind_of_error {edit : Edit α} {next : α → Edit β} {session after : Session}
    {refusal : Refusal} (ran : edit.run.run session = (.error refusal, after)) :
    (edit >>= next).run.run session = (.error refusal, after) := by
  rw [ExceptT.run_bind, StateT.run_bind, ran]
  rfl

/-- Looking up an instruction that is there gives it with its block. -/
theorem run_instr {session : Session} {id : BlockId} {block : Block} {position : Nat}
    {instr : Instr} (placed : session.procedure.block? id = some block)
    (found : block.instrs[position]? = some instr) :
    (Edit.instr id position).run.run session = (.ok (block, instr), session) := by
  have read : (Edit.block id).run.run session = (.ok block, session) := by
    change (existing (session.procedure.block? id)).run.run session = _
    rw [placed]
    rfl
  rw [Edit.instr, run_bind_of_ok read, found]
  rfl

/-- Looking up the procedure gives the session's own and changes nothing. -/
theorem run_procedure (session : Session) :
    Edit.procedure.run.run session = (.ok session.procedure, session) := rfl

/-- Looking up a slot that is there gives it and changes nothing. -/
theorem run_slot {session : Session} {id : SlotId} {slot : StackSlot}
    (found : session.procedure.slot? id = some slot) :
    (Edit.slot id).run.run session = (.ok slot, session) := by
  change (existing (session.procedure.slot? id)).run.run session = _
  rw [found]
  rfl

/-- Looking up a missing slot is refused and changes nothing. -/
theorem run_slot_of_missing {session : Session} {id : SlotId}
    (missing : session.procedure.slot? id = none) :
    (Edit.slot id).run.run session = (.error .outOfRange, session) := by
  change (existing (session.procedure.slot? id)).run.run session = _
  rw [missing]
  rfl

/-! ### Invariants -/

/-- The edit keeps an invariant of the session, and the value that it gives, if it is
not refused, is as stated. -/
def Keeps (invariant : Session → Prop) (edit : Edit α) (fact : α → Prop) : Prop :=
  ∀ session, invariant session →
    invariant (edit.run.run session).2 ∧
      ∀ value, (edit.run.run session).1 = .ok value → fact value

namespace Keeps

variable {invariant : Session → Prop}

/-- Giving a value keeps every invariant. -/
theorem pure {fact : α → Prop} {value : α} (holds : fact value) :
    Keeps invariant (Pure.pure value) fact := by
  intro session kept
  refine ⟨kept, fun other given => ?_⟩
  cases given
  exact holds

/-- An edit keeps an invariant if its first part does, and the rest does for every value that the
first part may give. -/
theorem bind {edit : Edit α} {next : α → Edit β} {fact : α → Prop} {goal : β → Prop}
    (first : Keeps invariant edit fact)
    (later : ∀ value, fact value → Keeps invariant (next value) goal) :
    Keeps invariant (edit >>= next) goal := by
  intro session kept
  obtain ⟨after, known⟩ := first session kept
  cases ran : edit.run.run session with
  | mk outcome middle =>
      rw [ran] at after known
      cases outcome with
      | error refusal =>
          rw [run_bind_of_error ran]
          exact ⟨after, fun value given => nomatch given⟩
      | ok value =>
          rw [run_bind_of_ok ran]
          exact later value (known value rfl) middle after

/-- Requiring something that may be missing keeps every invariant and gives only what was
found. -/
theorem existing {found? : Option α} {fact : α → Prop} (holds : ∀ found ∈ found?, fact found) :
    Keeps invariant (Edit.existing found?) fact := by
  cases found? with
  | none => exact fun session kept => ⟨kept, fun value given => nomatch given⟩
  | some found => exact pure (holds found rfl)

/-- Requiring a result keeps every invariant and gives only what the result is. -/
theorem succeed {result : Except Fault α} {fact : α → Prop}
    (holds : ∀ value, result = .ok value → fact value) :
    Keeps invariant (Edit.succeed result) fact := by
  cases result with
  | error fault => exact fun session kept => ⟨kept, fun value given => nomatch given⟩
  | ok value => exact pure (holds value rfl)

/-! Steps of whose value nothing has to be known. -/

/-- A reply keeps every invariant. -/
theorem answer (value : α) : Keeps invariant (Pure.pure value) fun _ => True :=
  pure trivial

/-- A reply at the end of an edit keeps what the edit keeps. -/
theorem answered {edit : Edit α} {fact : α → Prop} (kept : Keeps invariant edit fact)
    (value : β) : Keeps invariant (edit >>= fun _ => Pure.pure value) fun _ => True :=
  kept.bind fun _ _ => answer value

/-- A lookup keeps every invariant, whatever is found. -/
theorem lookup (found? : Option α) : Keeps invariant (Edit.existing found?) fun _ => True :=
  existing fun _ _ => trivial

/-- An attempt keeps every invariant, whatever comes of it. -/
theorem attempt (result : Except Fault α) : Keeps invariant (Edit.succeed result) fun _ => True :=
  succeed fun _ _ => trivial

/-! Steps that read or change the session. -/

/-- The session that an edit reads satisfies the invariant. -/
theorem get : Keeps invariant MonadState.get invariant := by
  intro session kept
  refine ⟨kept, fun value given => ?_⟩
  cases given
  exact kept

/-- Storing a session that satisfies the invariant keeps it. -/
theorem set {after : Session} (holds : invariant after) :
    Keeps invariant (MonadStateOf.set after) fun _ => True :=
  fun _ _ => ⟨holds, fun _ _ => trivial⟩

/-- The procedure that an edit reads is as the invariant says. -/
theorem procedure {fact : Procedure → Prop}
    (holds : ∀ session, invariant session → fact session.procedure) :
    Keeps invariant Edit.procedure fact :=
  bind get fun session kept => pure (holds session kept)

/-- A change that keeps the invariant keeps it as an edit. -/
theorem modify {change : Session → Session}
    (keeps : ∀ session, invariant session → invariant (change session)) :
    Keeps invariant (modify change) fun _ => True :=
  fun session kept => ⟨keeps session kept, fun _ _ => trivial⟩

end Keeps

end BackendIR.Edit
