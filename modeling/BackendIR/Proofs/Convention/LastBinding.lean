import Std.Data.TreeMap.Lemmas
import Mathlib.Data.Finset.Card
import Mathlib.Data.Finset.Basic
import BackendIR.Standard

/-!
# The last binding counts

The history of a table of conventions is the list of all bindings made so far. The
convention in force for an opcode is the one in the last binding of its code, whatever
the names (`BackendIR.ConventionTable.LastBound`), and the table knows as many operations as
its history has codes (`BackendIR.ConventionTable.Tracks`). Binding once more keeps that
(`BackendIR.ConventionTable.Tracks.rebind`), so it holds after any run of bindings, from the
empty table or from the standard one. Everything that can be asked of a table follows from it
(`BackendIR.ConventionTable.Tracks.follows`), and the answers say no less
(`BackendIR.ConventionTable.Follows.tracks`).
-/

namespace BackendIR.ConventionTable

/-- The convention of the last binding of a code. -/
def LastBound (history : List (Opcode × Convention)) (code : UInt16)
    (convention : Convention) : Prop :=
  ∃ earlier opcode later, history = earlier ++ (opcode, convention) :: later ∧
    opcode.code = code ∧ ∀ binding ∈ later, binding.1.code ≠ code

/-- No binding is of the code. -/
def Unbound (history : List (Opcode × Convention)) (code : UInt16) : Prop :=
  ∀ binding ∈ history, binding.1.code ≠ code

/-- The codes that were bound. -/
def codes (history : List (Opcode × Convention)) : Finset UInt16 :=
  (history.map fun binding => binding.1.code).toFinset

/-! ### Histories -/

variable {history : List (Opcode × Convention)} {code : UInt16}

/-- The last binding counts for its own code, and earlier ones for all other codes. -/
theorem lastBound_concat {opcode : Opcode} {convention found : Convention} :
    LastBound (history ++ [(opcode, convention)]) code found ↔
      opcode.code = code ∧ convention = found ∨
        opcode.code ≠ code ∧ LastBound history code found := by
  constructor
  · rintro ⟨earlier, bound, later, split, named, unbound⟩
    rcases later.eq_nil_or_concat with rfl | ⟨middle, last, rfl⟩
    · obtain ⟨_, same⟩ := List.append_inj' split rfl
      cases same
      exact .inl ⟨named, rfl⟩
    · rw [List.concat_eq_append] at split unbound
      rw [← List.cons_append, ← List.append_assoc] at split
      obtain ⟨front, same⟩ := List.append_inj' split rfl
      cases same
      refine .inr ⟨unbound _ (List.mem_append_right _ (.head _)), ?_⟩
      exact ⟨earlier, bound, middle, front, named,
        fun binding member => unbound binding (List.mem_append_left _ member)⟩
  · rintro (⟨named, rfl⟩ | ⟨other, earlier, bound, later, rfl, named, unbound⟩)
    · exact ⟨history, opcode, [], rfl, named, fun _ member => by cases member⟩
    · refine ⟨earlier, bound, later ++ [(opcode, convention)], by simp, named, ?_⟩
      intro binding member
      rcases List.mem_append.mp member with inside | last
      · exact unbound binding inside
      · rw [List.mem_singleton.mp last]
        exact other

private theorem unbound_iff : Unbound history code ↔ code ∉ codes history := by
  simp [Unbound, codes]

private theorem codes_concat (opcode : Opcode) (convention : Convention) :
    codes (history ++ [(opcode, convention)]) = insert opcode.code (codes history) := by
  rw [codes, List.map_append, List.toFinset_append, Finset.insert_eq, Finset.union_comm]
  rfl

/-! ### Tables -/

/-- A table that was bound anew answers for that operation by the new convention, and for
every other one as before. -/
theorem convention?_rebind (table : ConventionTable) (opcode queried : Opcode)
    (convention : Convention) :
    (table.rebind opcode convention).2.convention? queried =
      if opcode.code = queried.code then some convention else table.convention? queried := by
  simp only [convention?, rebind, Std.TreeMap.getElem?_insert, Opcode.byCode_eq_eq_iff_same,
    Opcode.same_iff]

/-- Binding an opcode adds its operation to those that are bound. -/
theorem contains_rebind (table : ConventionTable) (opcode queried : Opcode)
    (convention : Convention) :
    (table.rebind opcode convention).2.contains queried = true ↔
      queried.code = opcode.code ∨ table.contains queried = true := by
  rw [contains, rebind, Std.TreeMap.contains_insert, Bool.or_eq_true, beq_iff_eq,
    Opcode.byCode_eq_eq_iff_same, Opcode.same_iff, eq_comm]
  rfl

private theorem contains_eq_isSome (table : ConventionTable) (opcode : Opcode) :
    table.contains opcode = (table.convention? opcode).isSome :=
  Std.TreeMap.contains_eq_isSome_getElem?

/-- The size of a table grows by bindings of opcodes that it does not contain. -/
theorem size_rebind (table : ConventionTable) (opcode : Opcode) (convention : Convention) :
    (table.rebind opcode convention).2.size =
      if table.contains opcode then table.size else table.size + 1 :=
  Std.TreeMap.size_insert

/-- The table is what its history makes of it. -/
structure Tracks (table : ConventionTable) (history : List (Opcode × Convention)) : Prop where
  convention?_eq_some_iff : ∀ opcode convention,
    table.convention? opcode = some convention ↔ LastBound history opcode.code convention
  contains_iff : ∀ opcode, table.contains opcode = true ↔ opcode.code ∈ codes history
  size_eq : table.size = (codes history).card

namespace Tracks

variable {table : ConventionTable}

/-- The empty table tracks no bindings. -/
theorem empty : Tracks .empty [] where
  convention?_eq_some_iff := by simp [convention?, ConventionTable.empty, LastBound]
  contains_iff := by simp [contains, ConventionTable.empty, codes]
  size_eq := rfl

/-- **One binding.** The table that binding an opcode leaves has that binding as the last
one of its history. -/
theorem rebind (tracks : table.Tracks history) (opcode : Opcode) (convention : Convention) :
    (table.rebind opcode convention).2.Tracks (history ++ [(opcode, convention)]) where
  convention?_eq_some_iff queried found := by
    rw [convention?_rebind, lastBound_concat, ← tracks.convention?_eq_some_iff]
    by_cases same : opcode.code = queried.code
    · simp [same]
    · simp [same]
  contains_iff queried := by
    rw [contains_rebind, codes_concat, Finset.mem_insert, tracks.contains_iff]
  size_eq := by
    rw [size_rebind, codes_concat, Finset.card_insert_eq_ite, tracks.size_eq]
    simp only [tracks.contains_iff]

/-- **Runs of bindings.** A run of bindings adds them all to the history, in order. -/
theorem bindAll (tracks : table.Tracks history) (bindings : List (Opcode × Convention)) :
    (table.bindAll bindings).Tracks (history ++ bindings) := by
  induction bindings generalizing table history with
  | nil => simpa [ConventionTable.bindAll] using tracks
  | cons binding rest ih =>
      have later := ih (tracks.rebind binding.1 binding.2)
      rw [List.append_assoc] at later
      exact later

end Tracks

/-- What can be asked of a table, by its history. -/
structure Follows (table : ConventionTable) (history : List (Opcode × Convention)) : Prop where
  convention_eq_ok_iff : ∀ opcode convention,
    table.convention opcode = .ok convention ↔ LastBound history opcode.code convention
  convention_eq_error_iff : ∀ opcode fault,
    table.convention opcode = .error fault ↔
      Unbound history opcode.code ∧ fault = .unrecognized opcode.name
  replaced_iff : ∀ opcode convention replaced,
    (table.rebind opcode convention).1 = some replaced ↔
      LastBound history opcode.code replaced
  contains_iff : ∀ opcode,
    table.contains opcode = true ↔ ∃ convention, table.convention opcode = .ok convention
  size_eq : table.size = (codes history).card
  isEmpty_iff : table.isEmpty = true ↔ table.size = 0

/-- The convention of an opcode is given exactly if the table has one. -/
theorem convention_eq_ok_iff (table : ConventionTable) (opcode : Opcode)
    (convention : Convention) :
    table.convention opcode = .ok convention ↔ table.convention? opcode = some convention := by
  unfold ConventionTable.convention
  cases table.convention? opcode <;> simp

/-- The only fault of a lookup is that the opcode is not recognized, named as in the lookup. -/
theorem convention_eq_error_iff (table : ConventionTable) (opcode : Opcode) (fault : Fault) :
    table.convention opcode = .error fault ↔
      table.convention? opcode = none ∧ fault = .unrecognized opcode.name := by
  unfold ConventionTable.convention
  cases table.convention? opcode <;> simp [eq_comm]

private theorem contains_iff_exists (table : ConventionTable) (opcode : Opcode) :
    table.contains opcode = true ↔ ∃ convention, table.convention opcode = .ok convention := by
  simp only [convention_eq_ok_iff, contains_eq_isSome, Option.isSome_iff_exists]

/-- A table that tracks its bindings answers every lookup by the last one. -/
theorem Tracks.follows {table : ConventionTable} (tracks : table.Tracks history) :
    table.Follows history where
  convention_eq_ok_iff opcode convention := by
    rw [ConventionTable.convention_eq_ok_iff, tracks.convention?_eq_some_iff]
  convention_eq_error_iff opcode fault := by
    have absent : table.convention? opcode = none ↔ Unbound history opcode.code := by
      rw [unbound_iff, ← tracks.contains_iff, contains_eq_isSome]
      simp
    rw [ConventionTable.convention_eq_error_iff, absent]
  replaced_iff opcode convention replaced := tracks.convention?_eq_some_iff opcode replaced
  contains_iff opcode := contains_iff_exists table opcode
  size_eq := tracks.size_eq
  isEmpty_iff := by
    simp [isEmpty, size, Std.TreeMap.isEmpty_eq_size_eq_zero]

/-- A table whose lookups answer by the last bindings tracks them. -/
theorem Follows.tracks {table : ConventionTable} (follows : table.Follows history) :
    table.Tracks history where
  convention?_eq_some_iff opcode convention := by
    rw [← ConventionTable.convention_eq_ok_iff, follows.convention_eq_ok_iff]
  contains_iff opcode := by
    -- What is not bound is what the question for its convention fails on.
    have absent : table.convention? opcode = none ↔ opcode.code ∉ codes history := by
      have refused := follows.convention_eq_error_iff opcode (.unrecognized opcode.name)
      rw [ConventionTable.convention_eq_error_iff, unbound_iff] at refused
      simpa using refused
    rw [contains_eq_isSome, Option.isSome_iff_ne_none, Ne, absent, not_not]
  size_eq := follows.size_eq

end BackendIR.ConventionTable
