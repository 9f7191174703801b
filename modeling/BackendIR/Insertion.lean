import BackendIR.Fault

/-!
# Batches of insertions

A batch collects insertions into a sequence, each before a position of the
sequence as it is now, and commits them all at once. Insertions before one
position keep the order in which they were added. A batch that does not fit its
target leaves the target alone and stays pending, sorted by position.
-/

namespace BackendIR

/-- An element to insert before the element at `index`. -/
structure Insertion (α : Type) where
  index : Nat
  element : α
  deriving DecidableEq

/-- Insertions that wait to be committed. -/
structure Batch (α : Type) where
  pending : List (Insertion α)
  deriving DecidableEq

/-- The merge of insertions into a sequence after some of them: how many elements
of the sequence are used, the result so far, and the elements that are left. -/
structure Merge (α : Type) where
  consumed : Nat
  merged : List α
  rest : List α

namespace Merge

variable {α : Type}

/-- The merge before the first insertion. -/
def start (target : List α) : Merge α := ⟨0, [], target⟩

/-- Take elements up to the insertion's position, then the inserted element. -/
def step (merge : Merge α) (insertion : Insertion α) : Merge α :=
  let count := insertion.index - merge.consumed
  { consumed := insertion.index
    merged := merge.merged ++ merge.rest.take count ++ [insertion.element]
    rest := merge.rest.drop count }

/-- The merge after all of the given insertions. -/
def run (target : List α) (insertions : List (Insertion α)) : Merge α :=
  insertions.foldl step (start target)

/-- The whole result: what is merged and then what is left. -/
def result (merge : Merge α) : List α :=
  merge.merged ++ merge.rest

end Merge

/-- What committing a batch gives: the number of insertions or a fault, the target
after it, and the batch after it. -/
structure Committed (α : Type) where
  outcome : Except Fault Nat
  target : List α
  batch : Batch α

namespace Batch

variable {α : Type}

/-- The batch with nothing to insert. -/
def empty : Batch α := ⟨[]⟩

/-- Add an insertion to the batch. -/
def add (batch : Batch α) (insertion : Insertion α) : Batch α :=
  ⟨batch.pending ++ [insertion]⟩

/-- How many insertions are pending. -/
def size (batch : Batch α) : Nat := batch.pending.length

/-- Whether nothing is pending. -/
def isEmpty (batch : Batch α) : Bool := batch.pending.isEmpty

/-- The batch ordered by position; insertions before one position keep their order. -/
def sorted (batch : Batch α) : Batch α :=
  ⟨batch.pending.mergeSort (fun first second => first.index ≤ second.index)⟩

/-- Check insertions from the last to the first against a target's length: each
must not stand behind a larger position, and must lie within the target. -/
def checkBackwards (length : Nat) : List (Insertion α) → Except Fault Unit
  | [] => .ok ()
  | [first] =>
      if length < first.index then .error (.outOfBounds first.index length) else .ok ()
  | last :: previous :: earlier =>
      if last.index < previous.index then .error (.outOfOrder last.index previous.index)
      else if length < last.index then .error (.outOfBounds last.index length)
      else checkBackwards length (previous :: earlier)

/-- Insert everything that is pending into a target. -/
def commit (batch : Batch α) (target : List α) : Committed α :=
  let ordered := batch.sorted
  match checkBackwards target.length ordered.pending.reverse with
  | .ok () =>
      { outcome := .ok ordered.size
        target := (Merge.run target ordered.pending).result
        batch := empty }
  | .error fault =>
      { outcome := .error fault
        target := target
        batch := ordered }

end Batch

end BackendIR
