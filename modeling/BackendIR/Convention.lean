import BackendIR.Fault
import Std.Data.TreeMap.Basic

/-!
# Conventions

A convention says how the instructions of an opcode access their operands: by
fixed forms, one for each number of operands, or by a strategy that looks at the
instruction. A table binds conventions to opcodes. Opcodes that denote one operation
are one key of a table, whatever their names (`BackendIR.Opcode.byCode_eq_eq_iff_same`),
and the last binding of an operation is the one in force.
-/

namespace BackendIR

/-- A way to find the accesses from the instruction itself. -/
inductive Strategy where
  /-- Parallel moves, each a source, a target and a width. -/
  | shuffle
  /-- The instruction's own description. -/
  | patch
  /-- A call: the callee, the result if there is one, the arguments. -/
  | call
  /-- A call on a cold path. -/
  | coldCall
  deriving DecidableEq

/-- How an opcode's instructions access their operands. -/
inductive Convention where
  /-- One list of accesses for each supported number of operands, and whether there
  are effects that show neither in the operands nor in control flow. -/
  | fixed (forms : List (List Access)) (effects : Bool)
  /-- Accesses found by a strategy. -/
  | derived (strategy : Strategy)
  deriving DecidableEq

/-- Opcodes in the order of their codes. -/
def Opcode.byCode : Opcode → Opcode → Ordering :=
  compareOn Opcode.code

instance : Std.TransCmp Opcode.byCode :=
  inferInstanceAs (Std.TransCmp (compareOn Opcode.code))

/-- Opcodes compare equal exactly if they denote one operation. -/
theorem Opcode.byCode_eq_eq_iff_same {left right : Opcode} :
    byCode left right = .eq ↔ left.same right = true := by
  rw [same_iff]
  exact Std.LawfulEqOrd.compare_eq_iff_eq

/-- Conventions bound to opcodes, where opcodes that denote one operation are one key. -/
structure ConventionTable where
  entries : Std.TreeMap Opcode Convention Opcode.byCode

namespace ConventionTable

/-- The table with no bindings. -/
def empty : ConventionTable := ⟨∅⟩

/-- The convention in force for an opcode. -/
def convention? (table : ConventionTable) (opcode : Opcode) : Option Convention :=
  table.entries[opcode]?

/-- The convention in force for an opcode, which has to be bound. -/
def convention (table : ConventionTable) (opcode : Opcode) : Except Fault Convention :=
  match table.convention? opcode with
  | some convention => .ok convention
  | none => .error (.unrecognized opcode.name)

/-- Bind an opcode to a convention, and give the convention that it replaces. -/
def rebind (table : ConventionTable) (opcode : Opcode) (convention : Convention) :
    Option Convention × ConventionTable :=
  (table.convention? opcode, ⟨table.entries.insert opcode convention⟩)

/-- The table that binding an opcode leaves, whatever convention was replaced. -/
def bind (table : ConventionTable) (opcode : Opcode) (convention : Convention) :
    ConventionTable :=
  (table.rebind opcode convention).2

/-- Whether an opcode is bound. -/
def contains (table : ConventionTable) (opcode : Opcode) : Bool :=
  table.entries.contains opcode

/-- How many operations are bound. -/
def size (table : ConventionTable) : Nat :=
  table.entries.size

/-- Whether no operation is bound. -/
def isEmpty (table : ConventionTable) : Bool :=
  table.entries.isEmpty

/-- Bind several opcodes, one after another. -/
def bindAll (table : ConventionTable) (bindings : List (Opcode × Convention)) :
    ConventionTable :=
  bindings.foldl (fun table binding => table.bind binding.1 binding.2) table

end ConventionTable

end BackendIR
