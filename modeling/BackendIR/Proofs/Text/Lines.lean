import Mathlib.Data.List.Forall2
import BackendIR.Block
import BackendIR.StackSlot
import BackendIR.Standard
import BackendIR.Proofs.Text.Operands

/-!
# What a line says

The single lines of a dump, each of which determines what it is about: the line of an
instruction with a standard opcode (`BackendIR.Instr.readsLike_of_text_eq`), the line of a
stack slot (`BackendIR.StackSlot.text_injective`), the heading of a block
(`BackendIR.Block.heading_inj`) and the lines that name neighbours of a block
(`BackendIR.Block.blocksLine_inj`).
-/

namespace BackendIR

/-- Lists that look alike are related element by element, if elements that look alike are. -/
theorem forall₂_of_map_eq {α β : Type} {view : α → β} {related : α → α → Prop}
    {left right : List α}
    (relate : ∀ first ∈ left, ∀ second ∈ right, view first = view second → related first second)
    (same : left.map view = right.map view) : List.Forall₂ related left right := by
  induction left generalizing right with
  | nil =>
      rw [List.map_eq_nil_iff.mp same.symm]
      exact .nil
  | cons element rest ih =>
      obtain ⟨other, others, rfl, first, later⟩ := List.map_eq_cons_iff.mp same.symm
      exact .cons (relate element (.head _) other (.head _) first.symm)
        (ih (fun first inLeft second inRight =>
          relate first (.tail _ inLeft) second (.tail _ inRight)) later.symm)

/-- Lists that are related element by element look alike, if related elements do. -/
theorem map_eq_of_forall₂ {α β : Type} {view : α → β} {related : α → α → Prop}
    {left right : List α} (agree : ∀ first second, related first second → view first = view second)
    (pairs : List.Forall₂ related left right) : left.map view = right.map view := by
  rw [← List.forall₂_eq_eq_eq, List.forall₂_map_left_iff, List.forall₂_map_right_iff]
  exact pairs.imp agree

/-! ### Instructions -/

namespace Instr

/-- Instructions that differ in nothing that is written. -/
structure ReadsLike (left right : Instr) : Prop where
  opcode : left.opcode = right.opcode
  operands : List.Forall₂ (fun first second : Operand => first.asPrinted = second.asPrinted)
    left.operands right.operands

/-- The operands' texts as they follow the opcode's name. -/
def tail : List String → String
  | [] => ""
  | items => " " ++ Listing.commas items

/-- An instruction is written as the name of its opcode and the texts of its operands. -/
theorem text_eq_append_tail (instr : Instr) :
    instr.text = instr.opcode.name ++ tail (instr.operands.map Operand.text) := by
  obtain ⟨opcode, operands, metadata⟩ := instr
  cases operands with
  | nil => exact String.append_empty.symm
  | cons first rest => exact String.append_assoc

private theorem stops_tail (items : List String) :
    Stops (fun char => char.isWhitespace = false) (tail items).toList := by
  cases items with
  | nil => exact stops_nil _
  | cons first rest =>
      change Stops _ (" " ++ Listing.commas (first :: rest)).toList
      rw [String.toList_append]
      exact stops_cons (by decide) _

/-- The texts of operands can be told apart in a row, as none has blanks and none is empty. -/
theorem tail_inj {left right : List String} (leftItems : ∀ item ∈ left, Solid item ∧ item ≠ "")
    (rightItems : ∀ item ∈ right, Solid item ∧ item ≠ "") (same : tail left = tail right) :
    left = right := by
  have blank (items : String) : " " ++ items ≠ "" := by simp
  rcases left with _ | ⟨first, rest⟩ <;> rcases right with _ | ⟨other, others⟩
  · rfl
  · exact absurd same.symm (blank _)
  · exact absurd same (blank _)
  · exact Listing.commas_injective leftItems rightItems (String.append_right_inj _ |>.mp same)

/-- The text of an operand has no blanks and is not empty. -/
theorem items_map_text (operands : List Operand) :
    ∀ item ∈ operands.map Operand.text, Solid item ∧ item ≠ "" := by
  intro item member
  obtain ⟨operand, _, rfl⟩ := List.mem_map.mp member
  exact ⟨operand.solid_text, operand.text_ne_empty⟩

/-- Instructions that differ in nothing that is written have the same text. -/
theorem ReadsLike.text_eq {left right : Instr} (alike : left.ReadsLike right) :
    left.text = right.text := by
  have operands : left.operands.map Operand.text = right.operands.map Operand.text :=
    map_eq_of_forall₂ (fun _ _ => Operand.text_eq_iff.mpr) alike.operands
  rw [text_eq_append_tail, text_eq_append_tail, alike.opcode, operands]

/-- The names of standard opcodes have no blanks. -/
theorem solid_name : ∀ opcode ∈ Standard.opcodes, Solid opcode.name := by decide

/-- The text of an instruction with a standard opcode determines what is written. -/
theorem readsLike_of_text_eq {left right : Instr} (leftStandard : left.opcode ∈ Standard.opcodes)
    (rightStandard : right.opcode ∈ Standard.opcodes) (same : left.text = right.text) :
    left.ReadsLike right := by
  have distinct : ∀ first ∈ Standard.opcodes, ∀ second ∈ Standard.opcodes,
      first.name = second.name → first = second := by decide
  have texts := congrArg String.toList same
  rw [text_eq_append_tail, text_eq_append_tail, String.toList_append, String.toList_append]
    at texts
  obtain ⟨names, tails⟩ := append_inj_of_stops (solid_name _ leftStandard)
    (solid_name _ rightStandard) (stops_tail _) (stops_tail _) texts
  have operands := tail_inj (items_map_text _) (items_map_text _) (String.toList_inj.mp tails)
  exact ⟨distinct _ leftStandard _ rightStandard (String.toList_inj.mp names),
    forall₂_of_map_eq (fun _ _ _ _ => Operand.text_eq_iff.mp) operands⟩

/-- An instruction with a standard opcode is written on one line. -/
theorem oneLine_text {instr : Instr} (standard : instr.opcode ∈ Standard.opcodes) :
    OneLine instr.text := by
  have items := items_map_text instr.operands
  rw [text_eq_append_tail]
  refine (solid_name _ standard).oneLine.append ?_
  unfold tail
  split
  · decide
  · exact .append (by decide)
      (Listing.oneLine_commas fun item member => (items item member).1.oneLine)

end Instr

/-! ### Stack slots -/

namespace StackSlot

/-- What a slot's text has behind the size. -/
def placeText : Option Int32 → String
  | some offset => ", offset = " ++ Numeral.signedDecimal offset.toInt ++ ">"
  | none => ">"

/-- The end of a slot's text determines whether it has an offset, and which. -/
theorem placeText_injective : placeText.Injective := by
  have differs (offset : Int32) : placeText (some offset) ≠ placeText none := by
    intro same
    have texts := congrArg (fun text => text.toList.head?) same
    simp [placeText] at texts
  intro left right same
  rcases left with _ | left <;> rcases right with _ | right
  · rfl
  · exact absurd same.symm (differs right)
  · exact absurd same (differs left)
  · have numerals := String.append_right_inj _ |>.mp (String.append_left_inj _ |>.mp same)
    rw [Int32.toInt_inj.mp (Numeral.signedDecimal_injective numerals)]

private theorem stops_placeText (offset? : Option Int32) :
    Stops (· ∈ Numeral.glyphs) (placeText offset?).toList := by
  cases offset? with
  | none => exact stops_cons (by decide) _
  | some offset =>
      rw [placeText, String.toList_append, String.toList_append]
      exact stops_cons (by decide) _

private theorem toList_text (slot : StackSlot) :
    slot.text.toList = (if slot.isSpill then "spill" else "stack").toList ++
      ((Numeral.decimal slot.id.index.toNat).toList ++ '<' ::
        ((Numeral.decimal slot.size.toNat).toList ++ (placeText slot.offset?).toList)) := by
  obtain ⟨id, size, kind, offset⟩ := slot
  cases offset <;> simp [text, placeText]

/-- A slot is determined by its text. -/
theorem text_injective : text.Injective := by
  intro left right same
  have texts := congrArg String.toList same
  rw [toList_text, toList_text] at texts
  have letters (spill : Bool) : (if spill then "spill" else "stack").toList.length = 5 := by
    cases spill <;> simp
  obtain ⟨kinds, behindKind⟩ := List.append_inj texts ((letters _).trans (letters _).symm)
  obtain ⟨ids, behindId⟩ := Numeral.decimal_append_inj (stops_cons (by decide) _)
    (stops_cons (by decide) _) behindKind
  obtain ⟨sizes, places⟩ := Numeral.decimal_append_inj (stops_placeText _) (stops_placeText _)
    (List.cons.inj behindId).2
  have kind : left.kind = right.kind := by
    have determined : ∀ first second : Kind, (if first == .spill then "spill" else "stack").toList =
        (if second == .spill then "spill" else "stack").toList → first = second := by
      intro first second
      cases first <;> cases second <;> decide
    exact determined left.kind right.kind kinds
  have offset := placeText_injective (String.toList_inj.mp places)
  have id : left.id = right.id := congrArg SlotId.mk (UInt32.toNat_inj.mp ids)
  have size := UInt32.toNat_inj.mp sizes
  cases left
  cases right
  cases id
  cases size
  cases kind
  cases offset
  rfl

/-- A slot is written on one line. -/
theorem oneLine_text (slot : StackSlot) : OneLine slot.text := by
  have numeral (number : Nat) : OneLine (Numeral.decimal number) :=
    (Numeral.solid_decimal number).oneLine
  refine .append (.append (.append (.append (.append ?_ (numeral _)) (by decide)) (numeral _)) ?_)
    (by decide)
  · split <;> decide
  · split
    · exact .append (by decide)
        (Numeral.madeOf_of_glyphs (by decide) (Numeral.madeOf_signedDecimal _))
    · decide

end StackSlot

/-! ### Blocks -/

namespace Block

/-- The first line of a block. -/
def heading (block : Block) : String :=
  "BB" ++ block.id.text ++ ": ; frequency = " ++ block.frequency.text

/-- The heading of a block determines its number and the text of its frequency. -/
theorem heading_inj {left right : Block} (same : left.heading = right.heading) :
    left.id = right.id ∧ left.frequency.text = right.frequency.text := by
  have shape (block : Block) : block.heading.toList = "BB#".toList ++
      ((Numeral.decimal block.id.index.toNat).toList ++
        (": ; frequency = " ++ block.frequency.text).toList) := by
    simp [heading, BlockId.text]
  have stops (text : String) :
      Stops (· ∈ Numeral.glyphs) (": ; frequency = " ++ text).toList := by
    rw [String.toList_append]
    exact stops_cons (by decide) _
  have texts := congrArg String.toList same
  rw [shape, shape] at texts
  obtain ⟨ids, behindId⟩ :=
    Numeral.decimal_append_inj (stops _) (stops _) (List.append_cancel_left texts)
  exact ⟨congrArg BlockId.mk (UInt32.toNat_inj.mp ids),
    String.append_right_inj _ |>.mp (String.toList_inj.mp behindId)⟩

/-- A heading is one line. -/
theorem oneLine_heading (block : Block) : OneLine block.heading :=
  .append (.append (.append (by decide) (.append (by decide) (Numeral.solid_decimal _).oneLine))
    (by decide)) block.frequency.oneLine_text

private theorem items_map_text (blocks : List BlockId) :
    ∀ item ∈ blocks.map BlockId.text, Solid item ∧ item ≠ "" := by
  intro item member
  obtain ⟨block, _, rfl⟩ := List.mem_map.mp member
  exact ⟨.append (by decide) (Numeral.solid_decimal _), by simp [BlockId.text]⟩

/-- A line of block numbers determines them, also where none is written. -/
theorem blocksLine_inj {label : String} {left right : List BlockId}
    (same : blocksLine label left = blocksLine label right) : left = right := by
  rcases left with _ | ⟨first, rest⟩ <;> rcases right with _ | ⟨other, others⟩
  · rfl
  · cases same
  · cases same
  · have items := Listing.commas_injective (items_map_text _) (items_map_text _)
      (String.append_right_inj _ |>.mp (List.cons.inj same).1)
    have determined : BlockId.text.Injective := by
      intro left right same
      have numbers := Numeral.decimal_injective (String.append_right_inj _ |>.mp same)
      exact congrArg BlockId.mk (UInt32.toNat_inj.mp numbers)
    exact determined.list_map items

/-- Block numbers are written on one line. -/
theorem oneLine_blocksLine {label : String} (labelLine : OneLine label) (blocks : List BlockId) :
    ∀ line ∈ blocksLine label blocks, OneLine line := by
  intro line member
  have items := items_map_text blocks
  cases blocks with
  | nil => cases member
  | cons first rest =>
      rw [List.mem_singleton.mp member]
      exact labelLine.append
        (Listing.oneLine_commas fun item member => (items item member).1.oneLine)

end Block

end BackendIR
