import BackendIR.Procedure.Basic
import BackendIR.Proofs.Text.Lines

/-!
# The dump is unambiguous

Two procedures with standard opcodes have one dump just when they differ in nothing that is
written (`BackendIR.Procedure.dump_eq_iff_readsLike`). The dump leaves out empty sections and
sizes of zero and has no closing lines, so that its parts are told apart by single characters:
a section of the procedure starts with a line that is not indented, and the third character of
an indented line says which part of a block it belongs to.
-/

namespace BackendIR

/-! ### Marks of lines -/

/-- A line with one of some characters at a position. -/
def MarkedAt (position : Nat) (marks : List Char) (line : String) : Prop :=
  ∃ mark ∈ marks, line.toList[position]? = some mark

private theorem not_markedAt {position : Nat} {marks : List Char} {mark : Char} {line : String}
    (outside : mark ∉ marks) (found : line.toList[position]? = some mark) :
    ¬MarkedAt position marks line := by
  rintro ⟨other, inside, same⟩
  rw [found] at same
  cases same
  exact outside inside

private theorem stops_of_not_mem {position : Nat} {marks : List Char} {mark : Char}
    {rest : List String}
    (outside : mark ∉ marks) (marked : ∀ line ∈ rest, line.toList[position]? = some mark) :
    Stops (MarkedAt position marks) rest :=
  stops_of_forall fun line member => not_markedAt outside (marked line member)

private theorem mark_append {position : Nat} {mark : Char} {label : String}
    (found : label.toList[position]? = some mark) (text : String) :
    (label ++ text).toList[position]? = some mark := by
  obtain ⟨covers, _⟩ := List.getElem?_eq_some_iff.mp found
  rw [String.toList_append, List.getElem?_append_left covers, found]

namespace Block

/-- Blocks that differ in nothing that is written. The weights of edges are not. -/
structure ReadsLike (left right : Block) : Prop where
  id : left.id = right.id
  frequency : left.frequency.text = right.frequency.text
  predecessors : left.predecessors = right.predecessors
  targets : left.targets = right.targets
  instrs : List.Forall₂ Instr.ReadsLike left.instrs right.instrs

/-- Only standard opcodes occur in the block. -/
def UsesStandard (block : Block) : Prop :=
  ∀ instr ∈ block.instrs, instr.opcode ∈ Standard.opcodes

/-- The lines of a block's instructions. -/
def instrLines (block : Block) : List String :=
  block.instrs.map (fun instr => "    " ++ instr.text)

/-- The indented lines of a block. -/
def body (block : Block) : List String :=
  blocksLine "  Predecessors: " block.predecessors ++
    (block.instrLines ++ blocksLine "  Successors: " block.targets)

private theorem lines_eq_cons (block : Block) : block.lines = block.heading :: block.body := by
  simp [lines, heading, body, instrLines]

private theorem mark_heading (block : Block) : block.heading.toList[0]? = some 'B' := by
  rw [heading, String.append_assoc, String.append_assoc]
  exact mark_append rfl _

private theorem mark_blocksLine {label line : String} {position : Nat} {mark : Char}
    {blocks : List BlockId} (found : label.toList[position]? = some mark)
    (member : line ∈ blocksLine label blocks) : line.toList[position]? = some mark := by
  cases blocks with
  | nil => cases member
  | cons first rest =>
      rw [List.mem_singleton.mp member]
      exact mark_append found _

private theorem mark_instrLine {line : String} {position : Nat} {mark : Char} {block : Block}
    (found : "    ".toList[position]? = some mark) (member : line ∈ block.instrLines) :
    line.toList[position]? = some mark := by
  obtain ⟨instr, _, rfl⟩ := List.mem_map.mp member
  exact mark_append found _

private theorem mark_body {block : Block} {line : String} (member : line ∈ block.body) :
    line.toList[0]? = some ' ' := by
  rcases List.mem_append.mp member with predecessors | later
  · exact mark_blocksLine rfl predecessors
  · rcases List.mem_append.mp later with instrs | successors
    · exact mark_instrLine rfl instrs
    · exact mark_blocksLine rfl successors

/-- The parts of a block's body are told apart by their third characters. -/
theorem body_inj {left right : Block} (same : left.body = right.body) :
    left.predecessors = right.predecessors ∧ left.instrLines = right.instrLines ∧
      left.targets = right.targets := by
  have predecessorsIn (block : Block) : ∀ line ∈ blocksLine "  Predecessors: " block.predecessors,
      MarkedAt 2 ['P'] line :=
    fun line member => ⟨'P', .head _, mark_blocksLine rfl member⟩
  have instrsIn (block : Block) : ∀ line ∈ block.instrLines, MarkedAt 2 [' '] line :=
    fun line member => ⟨' ', .head _, mark_instrLine rfl member⟩
  have instrsOut (block : Block) : Stops (MarkedAt 2 ['P']) block.instrLines :=
    stops_of_not_mem (by decide) fun line => mark_instrLine rfl
  have successorsOut {marks : List Char} (outside : 'S' ∉ marks) (block : Block) :
      Stops (MarkedAt 2 marks) (blocksLine "  Successors: " block.targets) :=
    stops_of_not_mem outside fun line => mark_blocksLine rfl
  obtain ⟨predecessors, later⟩ := append_inj_of_stops (predecessorsIn left) (predecessorsIn right)
    ((instrsOut left).append (successorsOut (by decide) left))
    ((instrsOut right).append (successorsOut (by decide) right)) same
  obtain ⟨instrs, successors⟩ := append_inj_of_stops (instrsIn left) (instrsIn right)
    (successorsOut (by decide) left) (successorsOut (by decide) right) later
  exact ⟨blocksLine_inj predecessors, instrs, blocksLine_inj successors⟩

/-- Blocks with the same heading and the same indented lines differ in nothing that is written. -/
theorem readsLike_of_lines {left right : Block} (leftStandard : left.UsesStandard)
    (rightStandard : right.UsesStandard) (headings : left.heading = right.heading)
    (bodies : left.body = right.body) : left.ReadsLike right := by
  obtain ⟨id, frequency⟩ := heading_inj headings
  obtain ⟨predecessors, instrs, targets⟩ := body_inj bodies
  refine ⟨id, frequency, predecessors, targets, forall₂_of_map_eq ?_ instrs⟩
  intro first inLeft second inRight same
  exact Instr.readsLike_of_text_eq (leftStandard first inLeft) (rightStandard second inRight)
    (String.append_right_inj _ |>.mp same)

/-- Blocks that differ in nothing that is written have the same lines. -/
theorem ReadsLike.lines_eq {left right : Block} (alike : left.ReadsLike right) :
    left.lines = right.lines := by
  have instrs : left.instrLines = right.instrLines :=
    map_eq_of_forall₂ (fun _ _ same => congrArg _ same.text_eq) alike.instrs
  rw [lines_eq_cons, lines_eq_cons]
  simp only [heading, body, alike.id, alike.frequency, alike.predecessors, alike.targets, instrs]

/-- Nothing in a block with standard opcodes breaks a line. -/
theorem oneLine_lines {block : Block} (standard : block.UsesStandard) :
    ∀ line ∈ block.lines, OneLine line := by
  intro line member
  rw [lines_eq_cons] at member
  rcases List.mem_cons.mp member with rfl | inBody
  · exact block.oneLine_heading
  · rcases List.mem_append.mp inBody with predecessors | later
    · exact oneLine_blocksLine (by decide) _ line predecessors
    · rcases List.mem_append.mp later with instrs | successors
      · obtain ⟨instr, present, rfl⟩ := List.mem_map.mp instrs
        exact .append (by decide) (Instr.oneLine_text (standard instr present))
      · exact oneLine_blocksLine (by decide) _ line successors

/-- Every line of a block starts with the letter of headings or with a blank. -/
theorem markedAt_flatMap_lines {blocks : List Block} {line : String}
    (member : line ∈ blocks.flatMap lines) : MarkedAt 0 ['B', ' '] line := by
  obtain ⟨block, _, within⟩ := List.mem_flatMap.mp member
  rw [lines_eq_cons] at within
  rcases List.mem_cons.mp within with rfl | inBody
  · exact ⟨'B', by simp, block.mark_heading⟩
  · exact ⟨' ', by simp, mark_body inBody⟩

/-- What follows the indented lines of a block is a heading or nothing. -/
theorem stops_flatMap_lines (blocks : List Block) :
    Stops (MarkedAt 0 [' ']) (blocks.flatMap lines) := by
  cases blocks with
  | nil => exact stops_nil _
  | cons block rest =>
      rw [List.flatMap_cons, lines_eq_cons]
      exact stops_cons (not_markedAt (by decide) block.mark_heading) _

/-- Every block's lines end where the next heading stands. -/
theorem readsLike_of_flatMap_lines {left right : List Block}
    (leftStandard : ∀ block ∈ left, block.UsesStandard)
    (rightStandard : ∀ block ∈ right, block.UsesStandard)
    (same : left.flatMap lines = right.flatMap lines) : List.Forall₂ ReadsLike left right := by
  -- Of a block's lines the heading alone is not indented.
  have indented (block : Block) : ∀ line ∈ block.body, MarkedAt 0 [' '] line :=
    fun line member => ⟨' ', .head _, mark_body member⟩
  induction left generalizing right with
  | nil =>
      cases right with
      | nil => exact .nil
      | cons block rest =>
          rw [List.flatMap_cons, lines_eq_cons] at same
          cases same
  | cons block rest ih =>
      cases right with
      | nil =>
          rw [List.flatMap_cons, lines_eq_cons] at same
          cases same
      | cons other others =>
          rw [List.flatMap_cons, List.flatMap_cons, lines_eq_cons, lines_eq_cons,
            List.cons_append, List.cons_append] at same
          obtain ⟨headings, later⟩ := List.cons.inj same
          obtain ⟨bodies, rests⟩ := append_inj_of_stops (indented block) (indented other)
            (stops_flatMap_lines rest) (stops_flatMap_lines others) later
          exact .cons (readsLike_of_lines (leftStandard block (.head _))
              (rightStandard other (.head _)) headings bodies)
            (ih (fun block member => leftStandard block (.tail _ member))
              (fun block member => rightStandard block (.tail _ member)) rests)

end Block

namespace Procedure

/-- Procedures that differ in nothing that is written. -/
structure ReadsLike (left right : Procedure) : Prop where
  blocks : List.Forall₂ Block.ReadsLike left.blocks right.blocks
  slots : left.slots = right.slots
  frameSize : left.frameSize = right.frameSize
  callArea : left.callArea = right.callArea

/-- Only standard opcodes occur in the procedure. -/
def UsesStandard (procedure : Procedure) : Prop :=
  ∀ block ∈ procedure.blocks, block.UsesStandard

/-- The lines of slots determine the slots. -/
theorem slotLines_inj {left right : List StackSlot} (same : slotLines left = slotLines right) :
    left = right := by
  rcases left with _ | ⟨first, rest⟩ <;> rcases right with _ | ⟨other, others⟩
  · rfl
  · cases same
  · cases same
  · have determined : (fun slot : StackSlot => "    " ++ slot.text).Injective :=
      fun _ _ texts => StackSlot.text_injective (String.append_right_inj _ |>.mp texts)
    exact determined.list_map (List.cons.inj same).2

/-- The line of a size determines the size, also where none is written. -/
theorem sizeLine_inj {label : String} {left right : UInt32}
    (same : sizeLine label left = sizeLine label right) : left = right := by
  unfold sizeLine at same
  by_cases leftZero : left = 0 <;> by_cases rightZero : right = 0
  · rw [leftZero, rightZero]
  · rw [if_pos leftZero, if_neg rightZero] at same
    cases same
  · rw [if_neg leftZero, if_pos rightZero] at same
    cases same
  · rw [if_neg leftZero, if_neg rightZero] at same
    have numerals := String.append_right_inj _ |>.mp (List.cons.inj same).1
    exact UInt32.toNat_inj.mp (Numeral.decimal_injective numerals)

/-- The lines of slots are a title and a line for each slot. -/
theorem mem_slotLines {line : String} {slots : List StackSlot} (member : line ∈ slotLines slots) :
    line = "Stack slots:" ∨ ∃ slot : StackSlot, line = "    " ++ slot.text := by
  cases slots with
  | nil => cases member
  | cons first rest =>
      rcases List.mem_cons.mp member with label | entry
      · exact .inl label
      · obtain ⟨slot, _, rfl⟩ := List.mem_map.mp entry
        exact .inr ⟨slot, rfl⟩

private theorem mem_sizeLine {label line : String} {size : UInt32}
    (member : line ∈ sizeLine label size) :
    line = label ++ Numeral.decimal size.toNat := by
  unfold sizeLine at member
  split at member
  · cases member
  · exact List.mem_singleton.mp member

private theorem mark_sizeLine {label line : String} {mark : Char} {size : UInt32}
    (found : label.toList[0]? = some mark) (member : line ∈ sizeLine label size) :
    line.toList[0]? = some mark := by
  rw [mem_sizeLine member]
  exact mark_append found _

/-- Every line of slots starts with the letter of the title or with a blank. -/
theorem markedAt_slotLines {line : String} {slots : List StackSlot}
    (member : line ∈ slotLines slots) : MarkedAt 0 ['S', ' '] line := by
  rcases mem_slotLines member with rfl | ⟨slot, rfl⟩
  · exact ⟨'S', by simp, rfl⟩
  · exact ⟨' ', by simp, mark_append rfl _⟩

/-- The lines of slots do not go on as those of blocks. -/
theorem stops_slotLines (slots : List StackSlot) :
    Stops (MarkedAt 0 ['B', ' ']) (slotLines slots) := by
  cases slots with
  | nil => exact stops_nil _
  | cons slot rest =>
      have mark : "Stack slots:".toList[0]? = some 'S' := rfl
      exact stops_cons (not_markedAt (by decide) mark) _

/-- Nothing in a procedure with standard opcodes breaks a line. -/
theorem oneLine_lines {procedure : Procedure} (standard : procedure.UsesStandard) :
    ∀ line ∈ procedure.lines, OneLine line := by
  have sizes {label : String} {size : UInt32} (labelLine : OneLine label) :
      ∀ line ∈ sizeLine label size, OneLine line := by
    intro line member
    rw [mem_sizeLine member]
    exact labelLine.append (Numeral.solid_decimal _).oneLine
  intro line member
  rcases List.mem_append.mp member with earlier | area
  · rcases List.mem_append.mp earlier with earlier | frame
    · rcases List.mem_append.mp earlier with blocks | slots
      · obtain ⟨block, present, within⟩ := List.mem_flatMap.mp blocks
        exact Block.oneLine_lines (standard block present) line within
      · rcases mem_slotLines slots with rfl | ⟨slot, rfl⟩
        · decide
        · exact .append (by decide) slot.oneLine_text
    · exact sizes (by decide) line frame
  · exact sizes (by decide) line area

/-- The lines with the sizes. -/
def sizeLines (procedure : Procedure) : List String :=
  sizeLine "Frame size: " procedure.frameSize ++
    sizeLine "Call arg area size: " procedure.callArea

/-- The lines of sizes do not go on as lines that start with other letters. -/
theorem stops_sizeLines {marks : List Char} (frame : 'F' ∉ marks) (area : 'C' ∉ marks)
    (procedure : Procedure) : Stops (MarkedAt 0 marks) procedure.sizeLines :=
  .append (stops_of_not_mem frame fun _ => mark_sizeLine rfl)
    (stops_of_not_mem area fun _ => mark_sizeLine rfl)

/-- The lines of sizes determine both sizes, whichever of them are written. -/
theorem sizeLines_inj {left right : Procedure} (same : left.sizeLines = right.sizeLines) :
    left.frameSize = right.frameSize ∧ left.callArea = right.callArea := by
  have frameIn (procedure : Procedure) : ∀ line ∈ sizeLine "Frame size: " procedure.frameSize,
      MarkedAt 0 ['F'] line :=
    fun line member => ⟨'F', .head _, mark_sizeLine rfl member⟩
  have areaOut (procedure : Procedure) : Stops (MarkedAt 0 ['F'])
      (sizeLine "Call arg area size: " procedure.callArea) :=
    stops_of_not_mem (by decide) fun _ => mark_sizeLine rfl
  obtain ⟨frame, area⟩ := append_inj_of_stops (frameIn left) (frameIn right) (areaOut left)
    (areaOut right) same
  exact ⟨sizeLine_inj frame, sizeLine_inj area⟩

/-- The sections of a dump are told apart by their first characters. -/
theorem lines_inj {left right : Procedure} (same : left.lines = right.lines) :
    left.blocks.flatMap Block.lines = right.blocks.flatMap Block.lines ∧
      left.slots = right.slots ∧ left.frameSize = right.frameSize ∧
      left.callArea = right.callArea := by
  have sections (procedure : Procedure) : procedure.lines =
      procedure.blocks.flatMap Block.lines ++
        (slotLines procedure.slots ++ procedure.sizeLines) := by
    simp [lines, sizeLines]
  have slotsOut (procedure : Procedure) : Stops (MarkedAt 0 ['B', ' '])
      (slotLines procedure.slots ++ procedure.sizeLines) :=
    .append (stops_slotLines _) (stops_sizeLines (by decide) (by decide) procedure)
  have sizesOut (procedure : Procedure) : Stops (MarkedAt 0 ['S', ' ']) procedure.sizeLines :=
    stops_sizeLines (by decide) (by decide) procedure
  rw [sections, sections] at same
  obtain ⟨blocks, later⟩ := append_inj_of_stops (fun _ => Block.markedAt_flatMap_lines)
    (fun _ => Block.markedAt_flatMap_lines) (slotsOut left) (slotsOut right) same
  obtain ⟨slots, sizes⟩ := append_inj_of_stops (fun _ => markedAt_slotLines)
    (fun _ => markedAt_slotLines) (sizesOut left) (sizesOut right) later
  exact ⟨blocks, slotLines_inj slots, sizeLines_inj sizes⟩

/-- Procedures that differ in nothing that is written have the same lines. -/
theorem ReadsLike.lines_eq {left right : Procedure} (alike : left.ReadsLike right) :
    left.lines = right.lines := by
  have blocks : left.blocks.map Block.lines = right.blocks.map Block.lines :=
    map_eq_of_forall₂ (fun _ _ same => same.lines_eq) alike.blocks
  simp only [lines, List.flatMap_def, blocks, alike.slots, alike.frameSize, alike.callArea]

/-- **The dump is unambiguous.** Two procedures with standard opcodes have one dump just when
they differ in nothing that is written. -/
theorem dump_eq_iff_readsLike {left right : Procedure} (leftStandard : left.UsesStandard)
    (rightStandard : right.UsesStandard) : left.dump = right.dump ↔ left.ReadsLike right := by
  constructor
  · intro same
    have lines := Listing.lines_injective (oneLine_lines leftStandard)
      (oneLine_lines rightStandard) same
    obtain ⟨blocks, slots, frameSize, callArea⟩ := lines_inj lines
    exact ⟨Block.readsLike_of_flatMap_lines leftStandard rightStandard blocks, slots, frameSize,
      callArea⟩
  · intro alike
    exact congrArg Listing.lines alike.lines_eq

/-- A procedure with one block that stores an operand to a spilled value, and the slot of it. -/
def storing (source : Operand) (bank : Bank) (offset? : Option Int32) : Procedure :=
  { empty with
    blocks := [{ Block.fresh ⟨0⟩ ⟨0x3ff0000000000000⟩ with
      instrs := [⟨Standard.move, [source, .temp (.spilled ⟨0⟩ bank)], .none⟩] }]
    slots := [⟨⟨0⟩, 8, .spill, offset?⟩] }

/-- The kind of an immediate and the bank of a spilled value are not written, but an offset of
zero is. -/
theorem dump_eq_iff_readsLike_storing :
    (storing (.number 5) .gp none).dump = (storing (.pattern 5) .fp none).dump ∧
      (storing (.number 5) .gp none).dump ≠ (storing (.number 5) .gp (some 0)).dump := by
  have move : Standard.move ∈ Standard.opcodes := by decide
  have standard (source : Operand) (bank : Bank) (offset? : Option Int32) :
      (storing source bank offset?).UsesStandard := by
    intro block inBlocks instr inInstrs
    rw [List.mem_singleton.mp inBlocks] at inInstrs
    rw [List.mem_singleton.mp inInstrs]
    exact move
  constructor
  · apply (dump_eq_iff_readsLike (standard (.number 5) .gp none)
      (standard (.pattern 5) .fp none)).mpr
    exact ⟨.cons ⟨rfl, rfl, rfl, rfl, .cons ⟨rfl, .cons rfl (.cons rfl .nil)⟩ .nil⟩ .nil, rfl, rfl,
      rfl⟩
  · intro same
    have alike := (dump_eq_iff_readsLike (standard (.number 5) .gp none)
      (standard (.number 5) .gp (some 0))).mp same
    cases alike.slots

end Procedure

end BackendIR
