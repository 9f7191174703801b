import Mathlib.Logic.Relation
import BackendIR.Proofs.Text.Lines

/-!
# Operands that are written alike

Three things are not written in the text of an operand: whether a 32-bit immediate is a number
or a bit pattern, whether a 64-bit one is, and the bank of a spilled temporary, be it the operand
or part of an address (`BackendIR.Operand.Homograph`). These identifications, followed in either
direction and one after another, lead from an operand to all those with its text and to no others.
The text of an instruction tells that of each operand, though operands have commas of their own
(`BackendIR.Instr.text_tells_operands`).
-/

namespace BackendIR

open Relation

/-- Operands that differ in one thing that is not written. -/
inductive Operand.Homograph : Operand → Operand → Prop where
  | immediate (value : Int32) : Homograph (.number value) (.pattern value)
  | wideImmediate (low high : Int32) : Homograph (.number64 low high) (.pattern64 low high)
  | spilled (slot : SlotId) (bank other : Bank) :
      Homograph (.temp (.spilled slot bank)) (.temp (.spilled slot other))
  | spilledAddress (slot : SlotId) (bank other : Bank) (offset : Int32) :
      Homograph (.address (.spilled slot bank) offset) (.address (.spilled slot other) offset)
  | spilledBase (slot : SlotId) (bank other : Bank) (index : Temp) (scale : UInt8)
      (offset : Int32) :
      Homograph (.indexed (.spilled slot bank) index scale offset)
        (.indexed (.spilled slot other) index scale offset)
  | spilledIndex (base : Temp) (slot : SlotId) (bank other : Bank) (scale : UInt8)
      (offset : Int32) :
      Homograph (.indexed base (.spilled slot bank) scale offset)
        (.indexed base (.spilled slot other) scale offset)

namespace Operand

/-- Operands that differ in what is not written have the same text. -/
theorem Homograph.text_eq {left right : Operand} (alike : left.Homograph right) :
    left.text = right.text := by
  cases alike <;> rfl

/-- The operand as its text shows it is reached by identifications alone. -/
theorem eqvGen_asPrinted (operand : Operand) : EqvGen Homograph operand operand.asPrinted := by
  cases operand with
  | temp value =>
      cases value with
      | spilled slot bank => exact .rel _ _ (.spilled slot bank .gp)
      | virtual _ _ | register _ => exact .refl _
  | pattern value => exact .symm _ _ (.rel _ _ (.immediate value))
  | pattern64 low high => exact .symm _ _ (.rel _ _ (.wideImmediate low high))
  | address base offset =>
      cases base with
      | spilled slot bank => exact .rel _ _ (.spilledAddress slot bank .gp offset)
      | virtual _ _ | register _ => exact .refl _
  | indexed base index scale offset =>
      -- The base is settled first, then the index beside the new base.
      have first : EqvGen Homograph (.indexed base index scale offset)
          (.indexed base.asPrinted index scale offset) := by
        cases base with
        | spilled slot bank => exact .rel _ _ (.spilledBase slot bank .gp index scale offset)
        | virtual _ _ | register _ => exact .refl _
      have second : EqvGen Homograph (.indexed base.asPrinted index scale offset)
          (.indexed base.asPrinted index.asPrinted scale offset) := by
        cases index with
        | spilled slot bank =>
            exact .rel _ _ (.spilledIndex base.asPrinted slot bank .gp scale offset)
        | virtual _ _ | register _ => exact .refl _
      exact .trans _ _ _ first second
  | _ => exact .refl _

/-- Operands have the same text exactly if steps between homographs lead from one to the other. -/
theorem text_eq_iff_eqvGen (left right : Operand) :
    left.text = right.text ↔ EqvGen Homograph left right := by
  constructor
  · intro same
    refine .trans _ left.asPrinted _ (eqvGen_asPrinted left) ?_
    rw [text_eq_iff.mp same]
    exact .symm _ _ (eqvGen_asPrinted right)
  · intro alike
    have texts : Equivalence fun first second : Operand => first.text = second.text :=
      ⟨fun _ => rfl, Eq.symm, Eq.trans⟩
    exact texts.eqvGen_iff.mp (alike.mono fun _ _ => Homograph.text_eq)

end Operand

namespace Instr

/-- Instructions of one name have the same text exactly if their operands do, one by one. -/
theorem text_eq_iff_of_name {left right : Instr} (named : left.opcode.name = right.opcode.name) :
    left.text = right.text ↔
      left.operands.map Operand.text = right.operands.map Operand.text := by
  rw [text_eq_append_tail, text_eq_append_tail, named, String.append_right_inj]
  exact ⟨tail_inj (items_map_text _) (items_map_text _), congrArg tail⟩

/-- **Texts tell operands.** Two operands have one text exactly if identifications lead from one
to the other. Two instructions whose opcodes have one name have one text exactly if they have
equally many operands, with the same texts in order. -/
theorem text_tells_operands :
    (∀ left right : Operand, left.text = right.text ↔ EqvGen Operand.Homograph left right) ∧
      ∀ left right : Instr, left.opcode.name = right.opcode.name →
        (left.text = right.text ↔
          left.operands.length = right.operands.length ∧
            ∀ first second, (first, second) ∈ left.operands.zip right.operands →
              first.text = second.text) := by
  refine ⟨Operand.text_eq_iff_eqvGen, fun left right named => ?_⟩
  rw [text_eq_iff_of_name named, ← List.forall₂_eq_eq_eq, List.forall₂_map_left_iff,
    List.forall₂_map_right_iff]
  exact List.forall₂_iff_zip

/-- Opcodes of one name and several codes. Between two of the instructions there are homographs
only, one of them with commas in its text; the third has more operands. -/
theorem text_tells_operands_commas :
    let base (bank : Bank) : Temp := .spilled ⟨3⟩ bank
    let index : Temp := .virtual .gp 1
    let left : Instr := ⟨⟨1, "Move"⟩, [.indexed (base .gp) index 8 (-4), .number 5], .none⟩
    let right : Instr := ⟨⟨2, "Move"⟩, [.indexed (base .fp) index 8 (-4), .pattern 5], .none⟩
    let other : Instr := ⟨⟨1, "Move"⟩, [.address (base .gp) (-4), .temp index, .number 5], .none⟩
    left.opcode.name = right.opcode.name ∧ left.opcode.name = other.opcode.name ∧
      (Operand.indexed (base .gp) index 8 (-4)).text =
        (Operand.indexed (base .fp) index 8 (-4)).text ∧
      left.text = right.text ∧ left.text ≠ other.text := by
  intro base index left right other
  obtain ⟨operands, instrs⟩ := text_tells_operands
  have bases : (Operand.indexed (base .gp) index 8 (-4)).text =
      (Operand.indexed (base .fp) index 8 (-4)).text :=
    (operands _ _).mpr (.rel _ _ (.spilledBase ⟨3⟩ .gp .fp index 8 (-4)))
  have immediates : (Operand.number 5).text = (Operand.pattern 5).text :=
    (operands _ _).mpr (.rel _ _ (.immediate 5))
  refine ⟨rfl, rfl, bases, (instrs left right rfl).mpr ⟨rfl, ?_⟩, ?_⟩
  · intro first second member
    rcases List.mem_cons.mp member with pair | later
    · cases pair
      exact bases
    · cases List.mem_singleton.mp later
      exact immediates
  · apply mt (instrs left other rfl).mp
    rintro ⟨lengths, -⟩
    cases lengths

end Instr

end BackendIR
