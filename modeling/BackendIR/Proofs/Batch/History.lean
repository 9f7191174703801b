import BackendIR.Proofs.Batch.Commit
import Mathlib.Logic.Function.Basic

/-!
# Refused commits leave no trace

A batch is used over a whole run: insertions are added, the sequences it is
committed to change, and some of the commits are refused. A refused commit does
change the batch, since it leaves it sorted. Two batches that are sorted alike
cannot be told apart by anything that follows (`BackendIR.Staging.Similar`), so
deleting refused commits from a run deletes their entries from its log and changes
no other entry (`BackendIR.Staging.log_of_failuresDeleted`,
`BackendIR.Staging.log_withoutFailures`).
-/

namespace BackendIR

variable {κ α : Type}

namespace Batch

/-- A commit depends on the batch only through the sorted batch. -/
theorem commit_eq_of_sorted_eq {first second : Batch α} (same : first.sorted = second.sorted)
    (target : List α) : first.commit target = second.commit target := by
  simp only [commit, same]

/-- Batches that sort alike still do so with one more insertion. -/
theorem sorted_add_eq {first second : Batch α} (same : first.sorted = second.sorted)
    (insertion : Insertion α) : (first.add insertion).sorted = (second.add insertion).sorted := by
  rw [← sorted_add_sorted first, same, sorted_add_sorted]

end Batch

/-- A batch, and the sequences by name that it may be committed to. -/
structure Staging (κ α : Type) where
  batch : Batch α
  targets : κ → List α

namespace Staging

/-- What can happen in a run: an insertion is added, a sequence is changed in some
way from outside, or the batch is committed to a sequence. -/
inductive Event (κ α : Type) where
  | add (insertion : Insertion α)
  | edit (name : κ) (change : List α → List α)
  | commit (name : κ)

/-- The outcome of a commit and the target it leaves; nothing for other events. -/
def answer (staging : Staging κ α) : Event κ α → Option (Except Fault Nat × List α)
  | .add _ | .edit _ _ => none
  | .commit name =>
      let committed := staging.batch.commit (staging.targets name)
      some (committed.outcome, committed.target)

/-- The batch and the sequences after an event. -/
def next [DecidableEq κ] (staging : Staging κ α) : Event κ α → Staging κ α
  | .add insertion => { staging with batch := staging.batch.add insertion }
  | .edit name change =>
      { staging with
        targets := Function.update staging.targets name (change (staging.targets name)) }
  | .commit name =>
      let committed := staging.batch.commit (staging.targets name)
      { batch := committed.batch
        targets := Function.update staging.targets name committed.target }

/-- An event of a run and its answer. -/
structure Entry (κ α : Type) where
  event : Event κ α
  answer : Option (Except Fault Nat × List α)

/-- Whether the entry is of a commit that was refused. -/
def Entry.failed (entry : Entry κ α) : Bool :=
  match entry.answer with
  | some (.error _, _) => true
  | some (.ok _, _) | none => false

/-- The second log is the first with some of its refused commits deleted. -/
inductive FailuresDeleted : List (Entry κ α) → List (Entry κ α) → Prop where
  | nil : FailuresDeleted [] []
  | keep (entry : Entry κ α) {whole kept : List (Entry κ α)} :
      FailuresDeleted whole kept → FailuresDeleted (entry :: whole) (entry :: kept)
  | delete {entry : Entry κ α} {whole kept : List (Entry κ α)} :
      entry.failed → FailuresDeleted whole kept → FailuresDeleted (entry :: whole) kept

/-- Dropping all failed entries is one way to delete failures. -/
theorem failuresDeleted_filter (whole : List (Entry κ α)) :
    FailuresDeleted whole (whole.filter fun entry => !entry.failed) := by
  induction whole with
  | nil => exact .nil
  | cons entry rest ih =>
      by_cases failed : entry.failed
      · rw [List.filter_cons_of_neg (by simp [failed])]
        exact .delete failed ih
      · rw [List.filter_cons_of_pos (by simp [failed])]
        exact .keep entry ih

/-- The same sequences, and batches that are sorted alike. -/
structure Similar (first second : Staging κ α) : Prop where
  targets_eq : first.targets = second.targets
  sorted_eq : first.batch.sorted = second.batch.sorted

/-- Similar states answer every event alike. -/
theorem Similar.answer_eq {first second : Staging κ α} (similar : Similar first second)
    (event : Event κ α) : first.answer event = second.answer event := by
  cases event with
  | add insertion => rfl
  | edit name change => rfl
  | commit name =>
      simp only [answer, similar.targets_eq, Batch.commit_eq_of_sorted_eq similar.sorted_eq]

variable [DecidableEq κ]

/-- The events of a run in order, each with its answer. -/
def log : Staging κ α → List (Event κ α) → List (Entry κ α)
  | _, [] => []
  | staging, event :: rest => ⟨event, staging.answer event⟩ :: (staging.next event).log rest

/-- The run with every commit deleted that was refused in it. -/
def withoutFailures (staging : Staging κ α) (events : List (Event κ α)) : List (Event κ α) :=
  ((staging.log events).filter fun entry => !entry.failed).map Entry.event

/-- Every event keeps two stagings similar. -/
theorem Similar.next {first second : Staging κ α} (similar : Similar first second)
    (event : Event κ α) : Similar (first.next event) (second.next event) := by
  cases event with
  | add insertion =>
      exact ⟨similar.targets_eq, Batch.sorted_add_eq similar.sorted_eq insertion⟩
  | edit name change =>
      refine ⟨?_, similar.sorted_eq⟩
      simp only [Staging.next, similar.targets_eq]
  | commit name =>
      simp only [Staging.next, similar.targets_eq, Batch.commit_eq_of_sorted_eq similar.sorted_eq]
      exact ⟨rfl, rfl⟩

/-- A failed event leaves a similar state behind. -/
theorem similar_next_of_failed {staging : Staging κ α} {event : Event κ α}
    (failed : Entry.failed ⟨event, staging.answer event⟩) :
    Similar (staging.next event) staging := by
  cases event with
  | add insertion => cases failed
  | edit name change => cases failed
  | commit name =>
      cases outcome : (staging.batch.commit (staging.targets name)).outcome with
      | ok count => simp [Entry.failed, answer, outcome] at failed
      | error fault =>
          obtain ⟨_, _, _, largest, _, refused⟩ := Batch.commit_of_error outcome
          constructor
          · simp only [Staging.next, refused, Function.update_eq_self]
          · simp only [Staging.next, refused, Batch.sorted_sorted]

/-- Deleting refused commits from a run, whichever of them, keeps every other entry
of its log. The run may start from any staging that is similar. -/
theorem log_of_failuresDeleted {original other : Staging κ α} (similar : Similar original other)
    {events : List (Event κ α)} {kept : List (Entry κ α)}
    (deleted : FailuresDeleted (original.log events) kept) :
    other.log (kept.map Entry.event) = kept := by
  induction events generalizing original other kept with
  | nil =>
      cases deleted
      rfl
  | cons event rest ih =>
      rw [log] at deleted
      cases deleted with
      | keep entry later =>
          rw [List.map_cons, log, ih (similar.next event) later, similar.answer_eq event]
      | delete failed later =>
          -- The deleted commit left the original run similar to where it stood before.
          have before := similar_next_of_failed failed
          exact ih ⟨before.targets_eq.trans similar.targets_eq,
            before.sorted_eq.trans similar.sorted_eq⟩ later

/-- **Refused commits leave no trace.** Deleting every refused commit from a run
changes neither the outcome nor the resulting target of any commit that remains. -/
theorem log_withoutFailures (staging : Staging κ α) (events : List (Event κ α)) :
    staging.log (staging.withoutFailures events) =
      (staging.log events).filter fun entry => !entry.failed :=
  log_of_failuresDeleted ⟨rfl, rfl⟩ (failuresDeleted_filter _)

end Staging

end BackendIR
