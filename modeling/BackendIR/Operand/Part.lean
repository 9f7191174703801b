import BackendIR.Operand.Basic

/-!
# Parts of operands

Four kinds of things occur in operands: the operand as a whole, values, registers
that hold values, and slots of stack storage. A visit offers every occurrence, in
order, to a visitor that may replace it, and returns the rebuilt operand if
anything was replaced. A plain visit offers the things alone; an annotated one
tells the visitor how the instruction accesses each of them.
-/

namespace BackendIR

/-- A visitor that sees things alone. It keeps a state of its own, and answers
each offer with a replacement or with none. -/
abbrev PlainVisitor (σ α : Type) := α → StateM σ (Option α)

/-- A visitor that also sees how each thing is accessed. -/
abbrev Visitor (σ α : Type) := α → Access → StateM σ (Option α)

/-- A kind of thing that occurs in operands. -/
class Part (α : Type) where
  /-- The thing that the operand itself is. -/
  ofOperand? : Operand → Option α
  /-- Offer every occurrence alone. -/
  visitPlain {σ : Type} : Operand → PlainVisitor σ α → StateM σ (Option Operand)
  /-- Offer every occurrence with its access, given the access to the operand. -/
  visit {σ : Type} : Operand → Access → Visitor σ α → StateM σ (Option Operand)

namespace Operand

variable {σ : Type}

/-- Replace the base and the index of an address, keeping the old one where no
replacement is given; nothing is rebuilt when both are kept. -/
def reindex? (base index : Temp) (scale : UInt8) (offset : Int32) :
    Option Temp → Option Temp → Option Operand
  | none, none => none
  | newBase, newIndex => some (.indexed (newBase.getD base) (newIndex.getD index) scale offset)

/-- Offer every value in the operand alone, a base before an index. -/
def visitTempsPlain (operand : Operand) (visitor : PlainVisitor σ Temp) :
    StateM σ (Option Operand) :=
  match operand with
  | .temp value => do
      return (← visitor value).map .temp
  | .address base offset => do
      return (← visitor base).map (.address · offset)
  | .indexed base index scale offset => do
      let newBase ← visitor base
      let newIndex ← visitor index
      return reindex? base index scale offset newBase newIndex
  | _ => return none

/-- Offer every value in the operand with its access. A value that is the operand
has the operand's own access; those inside an address are address uses. -/
def visitTemps (operand : Operand) (access : Access) (visitor : Visitor σ Temp) :
    StateM σ (Option Operand) :=
  match operand with
  | .temp value => do
      return (← visitor value access).map .temp
  | .address base offset => do
      return (← visitor base access.inAddress).map (.address · offset)
  | .indexed base index scale offset => do
      let newBase ← visitor base access.inAddress
      let newIndex ← visitor index access.inAddress
      return reindex? base index scale offset newBase newIndex
  | _ => return none

/-- Offer the slot of stack storage alone. The offset is kept. -/
def visitSlotsPlain (operand : Operand) (visitor : PlainVisitor σ SlotId) :
    StateM σ (Option Operand) :=
  match operand with
  | .stack slot offset => do
      return (← visitor slot).map (.stack · offset)
  | _ => return none

/-- Offer the slot of stack storage with the operand's own access. -/
def visitSlots (operand : Operand) (access : Access) (visitor : Visitor σ SlotId) :
    StateM σ (Option Operand) :=
  match operand with
  | .stack slot offset => do
      return (← visitor slot access).map (.stack · offset)
  | _ => return none

/-- Whether a value occurs in the operand. -/
def mentions (operand : Operand) (value : Temp) : Bool :=
  operand.temps.contains value

end Operand

instance : Part Operand where
  ofOperand? := some
  visitPlain operand visitor := visitor operand
  visit operand access visitor := visitor operand access

instance : Part Temp where
  ofOperand? := Operand.temp?
  visitPlain := Operand.visitTempsPlain
  visit := Operand.visitTemps

/-- Registers occur as the values they hold; other values are passed over. -/
instance : Part Register where
  ofOperand? := Operand.register?
  visitPlain operand visitor := operand.visitTempsPlain fun value =>
    match value.register? with
    | some holder => return (← visitor holder).map .register
    | none => return none
  visit operand access visitor := operand.visitTemps access fun value access =>
    match value.register? with
    | some holder => return (← visitor holder access).map .register
    | none => return none

/-- Slots occur in stack storage only, not in values that are kept in a slot. -/
instance : Part SlotId where
  ofOperand? := Operand.slot?
  visitPlain := Operand.visitSlotsPlain
  visit := Operand.visitSlots

end BackendIR
