import BackendIR.Operand.Part
import BackendIR.Procedure.References

/-!
# Well-formed procedures

A procedure is well formed if everything that its blocks refer to is part of
it (`BackendIR.Procedure.WellFormed`). The check accepts exactly the
well-formed procedures. In any other it names the first reference that leads
outside (`BackendIR.Procedure.check_names_first_dangling`), in the order of
`BackendIR.Procedure.references`: all edges come first, then everything else block
by block. The values of an operand are looked up in one plain visit that keeps to the
first missing one (`BackendIR.Procedure.danglingOperand?_eq_visitPlain`).
-/

namespace BackendIR

/-- The numbers of blocks, of slots and of virtual values of each bank that something
may refer to. -/
structure Scope where
  blocks : BlockId → Prop
  slots : SlotId → Prop
  temps : Bank → UInt32 → Prop

/-- The positions of a procedure, and the virtual values that it has counted. -/
def Procedure.scope (procedure : Procedure) : Scope where
  blocks := fun id => id.index.toNat < procedure.blocks.length
  slots := fun id => id.index.toNat < procedure.slots.length
  temps := fun bank index => index < procedure.tempCount bank

/-- A value occurs in an operand as the operand itself or as part of an address. -/
inductive Temp.OccursIn : Temp → Operand → Prop where
  | itself (value : Temp) : value.OccursIn (.temp value)
  | address (base : Temp) (offset : Int32) : base.OccursIn (.address base offset)
  | base (base index : Temp) (scale : UInt8) (offset : Int32) :
      base.OccursIn (.indexed base index scale offset)
  | index (base index : Temp) (scale : UInt8) (offset : Int32) :
      index.OccursIn (.indexed base index scale offset)

/-! ### Within a scope -/

/-- A virtual value is one of its own bank, and a spilled one is kept in a slot of the
scope. -/
def Temp.Within (scope : Scope) : Temp → Prop
  | .virtual bank index => scope.temps bank index
  | .register _ => True
  | .spilled slot _ => scope.slots slot

/-- Stack storage is in a slot of the scope, and so is every value in the operand. -/
structure Operand.Within (scope : Scope) (operand : Operand) : Prop where
  slot : ∀ slot offset, operand = .stack slot offset → scope.slots slot
  temps : ∀ value : Temp, value.OccursIn operand → value.Within scope

/-- Every operand lies within the scope. -/
def Instr.Within (scope : Scope) (instr : Instr) : Prop :=
  ∀ operand ∈ instr.operands, operand.Within scope

/-- Everything that the block refers to lies within the scope. -/
structure Block.Within (scope : Scope) (block : Block) : Prop where
  successors : ∀ edge ∈ block.successors, scope.blocks edge.target
  predecessors : ∀ source ∈ block.predecessors, scope.blocks source
  instrs : ∀ instr ∈ block.instrs, instr.Within scope

/-- Everything that the blocks of the procedure refer to is part of it. -/
def Procedure.WellFormed (procedure : Procedure) : Prop :=
  ∀ block ∈ procedure.blocks, block.Within procedure.scope

/-! ### Larger scopes -/

/-- Whatever is in the first scope is in the second. -/
structure Scope.Below (smaller larger : Scope) : Prop where
  blocks : ∀ id, smaller.blocks id → larger.blocks id
  slots : ∀ id, smaller.slots id → larger.slots id
  temps : ∀ bank index, smaller.temps bank index → larger.temps bank index

/-- A value within a scope is within every larger one. -/
theorem Temp.Within.mono {smaller larger : Scope} (below : smaller.Below larger) {value : Temp}
    (within : value.Within smaller) : value.Within larger := by
  cases value with
  | virtual bank index => exact below.temps bank index within
  | register holder => trivial
  | spilled slot bank => exact below.slots slot within

/-- An operand within a scope is within every larger one. -/
theorem Operand.Within.mono {smaller larger : Scope} (below : smaller.Below larger)
    {operand : Operand} (within : operand.Within smaller) : operand.Within larger where
  slot := fun slot offset same => below.slots slot (within.slot slot offset same)
  temps := fun value occurs => (within.temps value occurs).mono below

/-- An instruction within a scope is within every larger one. -/
theorem Instr.Within.mono {smaller larger : Scope} (below : smaller.Below larger) {instr : Instr}
    (within : instr.Within smaller) : instr.Within larger :=
  fun operand member => (within operand member).mono below

/-- A block within a scope is within every larger one. -/
theorem Block.Within.mono {smaller larger : Scope} (below : smaller.Below larger) {block : Block}
    (within : block.Within smaller) : block.Within larger where
  successors := fun edge member => below.blocks edge.target (within.successors edge member)
  predecessors := fun source member => below.blocks source (within.predecessors source member)
  instrs := fun instr member => (within.instrs instr member).mono below

/-! ### Visits that only look -/

/-- The visitor that keeps every value and takes note of it. -/
def looking {σ : Type} (note : σ → Temp → σ) : PlainVisitor σ Temp :=
  fun value state => (none, note state value)

/-- A plain visit that only looks rebuilds nothing, and takes note of the values in order. -/
theorem Operand.visitPlain_looking {σ : Type} (operand : Operand) (note : σ → Temp → σ)
    (state : σ) :
    (Part.visitPlain operand (looking note)).run state =
      (none, operand.temps.foldl note state) := by
  cases operand <;> rfl

/-! ### References in order -/

/-- Something that a block refers to, and the instruction that does. -/
inductive Reference where
  | successor (target : BlockId)
  | predecessor (source : BlockId)
  | slot (named : SlotId) (instr : Instr)
  | temp (value : Temp) (instr : Instr)

namespace Reference

/-- What is referred to lies within the scope. -/
def Within (scope : Scope) : Reference → Prop
  | successor target => scope.blocks target
  | predecessor source => scope.blocks source
  | slot named _ => scope.slots named
  | temp value _ => value.Within scope

/-- The reference as one that dangles in a block. -/
def danglingIn (block : BlockId) : Reference → Dangling
  | successor target => .successor target block
  | predecessor source => .predecessor source block
  | slot named instr => .slot named instr block
  | temp value instr => .temp value instr block

/-- The reference in words that say why it dangles. -/
def text : Reference → String
  | successor target => "successor " ++ target.text
  | predecessor source => "predecessor " ++ source.text
  | slot named instr => named.text ++ " in `" ++ instr.text ++ "`"
  | temp value instr => Dangling.tempMessage value ++ " in `" ++ instr.text ++ "`"

end Reference

/-- What an operand of an instruction refers to, a base before an index. -/
def Operand.references (instr : Instr) : Operand → List Reference
  | .temp value => [.temp value instr]
  | .address base _ => [.temp base instr]
  | .indexed base index _ _ => [.temp base instr, .temp index instr]
  | .stack slot _ => [.slot slot instr]
  | _ => []

/-- What an instruction refers to, operand by operand. -/
def Instr.references (instr : Instr) : List Reference :=
  instr.operands.flatMap (Operand.references instr)

/-- What a block refers to by its edges. -/
def Block.edgeReferences (block : Block) : List Reference :=
  block.successors.map fun edge => .successor edge.target

/-- What a block refers to apart from its edges: its predecessors, then what its
instructions refer to. -/
def Block.otherReferences (block : Block) : List Reference :=
  block.predecessors.map Reference.predecessor ++ block.instrs.flatMap Instr.references

/-- Everything that the blocks of a procedure refer to, with the block that does:
first the edges of all blocks, then all else block by block. -/
def Procedure.references (procedure : Procedure) : List (Block × Reference) :=
  procedure.blocks.flatMap (fun block => block.edgeReferences.map (block, ·)) ++
    procedure.blocks.flatMap (fun block => block.otherReferences.map (block, ·))

/-- The values of an operand are those that occur in it. -/
theorem Temp.occursIn_iff {value : Temp} {operand : Operand} :
    value.OccursIn operand ↔ value ∈ operand.temps := by
  constructor
  · intro occurs
    cases occurs <;> simp [Operand.temps]
  · intro member
    cases operand with
    | temp itself =>
        cases List.mem_singleton.mp member
        exact .itself value
    | address base offset =>
        cases List.mem_singleton.mp member
        exact .address value offset
    | indexed base index scale offset =>
        rcases List.mem_cons.mp member with rfl | later
        · exact .base value index scale offset
        · cases List.mem_singleton.mp later
          exact .index base value scale offset
    | _ => exact absurd member List.not_mem_nil

/-- An operand lies within a scope if its slot and all its values do. -/
theorem Operand.within_iff {scope : Scope} {operand : Operand} :
    operand.Within scope ↔
      (∀ slot ∈ operand.slot?, scope.slots slot) ∧
        ∀ value ∈ operand.temps, value.Within scope := by
  have stored (slot : SlotId) : slot ∈ operand.slot? ↔ ∃ offset, operand = .stack slot offset := by
    cases operand <;> simp [Operand.slot?]
  constructor
  · rintro ⟨slots, temps⟩
    refine ⟨fun slot member => ?_, fun value member => temps value (Temp.occursIn_iff.mpr member)⟩
    obtain ⟨offset, same⟩ := (stored slot).mp member
    exact slots slot offset same
  · rintro ⟨slots, temps⟩
    exact ⟨fun slot offset same => slots slot ((stored slot).mpr ⟨offset, same⟩),
      fun value occurs => temps value (Temp.occursIn_iff.mp occurs)⟩

/-- An operand refers to its slot or to its values; none has both. -/
theorem Operand.references_eq (instr : Instr) (operand : Operand) :
    operand.references instr =
      operand.slot?.toList.map (Reference.slot · instr) ++
        operand.temps.map (Reference.temp · instr) := by
  cases operand <;> rfl

/-- An operand lies within a scope if everything it refers to does. -/
theorem Operand.within_iff_references (scope : Scope) (instr : Instr) (operand : Operand) :
    operand.Within scope ↔
      ∀ reference ∈ operand.references instr, reference.Within scope := by
  rw [Operand.within_iff, Operand.references_eq]
  simp only [List.forall_mem_append, List.forall_mem_map, Option.mem_toList]
  rfl

/-- An instruction lies within a scope if everything it refers to does. -/
theorem Instr.within_iff_references (scope : Scope) (instr : Instr) :
    instr.Within scope ↔ ∀ reference ∈ instr.references, reference.Within scope := by
  simp only [Instr.Within, Operand.within_iff_references scope instr, Instr.references,
    List.mem_flatMap]
  constructor
  · rintro within reference ⟨operand, member, held⟩
    exact within operand member reference held
  · intro within operand member reference held
    exact within reference ⟨operand, member, held⟩

/-- A block lies within a scope if everything it refers to does, by its edges or otherwise. -/
theorem Block.within_iff_references (scope : Scope) (block : Block) :
    block.Within scope ↔
      (∀ reference ∈ block.edgeReferences, reference.Within scope) ∧
        ∀ reference ∈ block.otherReferences, reference.Within scope := by
  constructor
  · rintro ⟨successors, predecessors, instrs⟩
    constructor
    · intro reference member
      obtain ⟨edge, held, rfl⟩ := List.mem_map.mp member
      exact successors edge held
    · intro reference member
      rcases List.mem_append.mp member with before | inside
      · obtain ⟨source, held, rfl⟩ := List.mem_map.mp before
        exact predecessors source held
      · obtain ⟨instr, held, refers⟩ := List.mem_flatMap.mp inside
        exact (instr.within_iff_references scope).mp (instrs instr held) reference refers
  · rintro ⟨edges, others⟩
    constructor
    · intro edge held
      exact edges _ (List.mem_map_of_mem held)
    · intro source held
      exact others _ (List.mem_append_left _ (List.mem_map_of_mem held))
    · intro instr held
      rw [instr.within_iff_references scope]
      intro reference refers
      exact others _ (List.mem_append_right _ (List.mem_flatMap.mpr ⟨instr, held, refers⟩))

namespace Procedure

variable (procedure : Procedure)

/-- A procedure is well formed if none of its references leads outside. -/
theorem wellFormed_iff_references :
    procedure.WellFormed ↔ ∀ held ∈ procedure.references, held.2.Within procedure.scope := by
  simp only [WellFormed, Block.within_iff_references, references, List.mem_append,
    List.mem_flatMap, List.mem_map]
  constructor
  · rintro within held (edge | other)
    · obtain ⟨block, member, reference, refers, rfl⟩ := edge
      exact (within block member).1 reference refers
    · obtain ⟨block, member, reference, refers, rfl⟩ := other
      exact (within block member).2 reference refers
  · intro within block member
    exact ⟨fun reference refers => within _ (.inl ⟨block, member, reference, refers, rfl⟩),
      fun reference refers => within _ (.inr ⟨block, member, reference, refers, rfl⟩)⟩

/-- Whether the procedure has what a reference leads to. -/
def has : Reference → Bool
  | .successor block | .predecessor block => procedure.hasBlock block
  | .slot named _ => procedure.hasSlot named
  | .temp value _ => procedure.hasTemp value

private theorem hasTemp_iff (value : Temp) :
    procedure.hasTemp value ↔ value.Within procedure.scope := by
  cases value with
  | virtual bank index => exact decide_eq_true_iff
  | register holder => exact iff_of_true rfl trivial
  | spilled slot bank => exact decide_eq_true_iff

/-- The procedure has what lies within its scope. -/
theorem has_iff (reference : Reference) :
    procedure.has reference ↔ reference.Within procedure.scope := by
  cases reference with
  | successor target => exact decide_eq_true_iff
  | predecessor source => exact decide_eq_true_iff
  | slot named instr => exact decide_eq_true_iff
  | temp value instr => exact procedure.hasTemp_iff value

/-- The first of some references of a block that the procedure does not have. -/
def firstMissing? (block : BlockId) (references : List Reference) : Option Dangling :=
  (references.find? fun reference => !procedure.has reference).map (·.danglingIn block)

private theorem firstMissing?_flatMap {α : Type} (block : BlockId) (elements : List α)
    (references : α → List Reference) :
    procedure.firstMissing? block (elements.flatMap references) =
      elements.findSome? fun element => procedure.firstMissing? block (references element) := by
  rw [firstMissing?, List.find?_flatMap, List.map_findSome?]
  rfl

private theorem firstMissing?_append (block : BlockId) (first second : List Reference) :
    procedure.firstMissing? block (first ++ second) =
      (procedure.firstMissing? block first).or (procedure.firstMissing? block second) := by
  simp only [firstMissing?, List.find?_append, Option.map_or]

private theorem firstMissing?_map {α : Type} (block : BlockId) (named : List α)
    (refer : α → Reference) :
    procedure.firstMissing? block (named.map refer) =
      (named.find? fun name => !procedure.has (refer name)).map
        fun name => (refer name).danglingIn block := by
  simp only [firstMissing?, List.find?_map, Option.map_map]
  rfl

/-- The visitor that keeps every value and remembers the first one that the procedure lacks. -/
def seekingMissing : PlainVisitor (Option Temp) Temp :=
  looking fun found value => found.or (Option.guard (fun value => !procedure.hasTemp value) value)

/-- A plain visit for missing values remembers the first of them in the operand. -/
theorem visitPlain_seekingMissing (operand : Operand) :
    (Part.visitPlain operand procedure.seekingMissing).run none =
      (none, operand.temps.find? fun value => !procedure.hasTemp value) := by
  -- What was found before the visit stays, so the first missing value counts only without it.
  have remembered (found : Option Temp) (values : List Temp) :
      values.foldl (fun found value =>
          found.or (Option.guard (fun value => !procedure.hasTemp value) value)) found =
        found.or (values.find? fun value => !procedure.hasTemp value) := by
    induction values generalizing found with
    | nil => exact Option.or_none.symm
    | cons value rest ih =>
        rw [List.foldl_cons, ih, Option.or_assoc, List.find?_cons]
        cases present : procedure.hasTemp value with
        | true => simp [Option.guard, present]
        | false => simp [Option.guard, present]
  rw [seekingMissing, Operand.visitPlain_looking, remembered, Option.none_or]

/-- The check of an operand looks up its slot, and then its values in one plain visit. -/
theorem danglingOperand?_eq_visitPlain (block : BlockId) (instr : Instr) (operand : Operand) :
    procedure.danglingOperand? block instr operand =
      ((operand.slot?.filter fun slot => !procedure.hasSlot slot).map
          (Dangling.slot · instr block)).or
        (((Part.visitPlain operand procedure.seekingMissing).run none).2.map
          (Dangling.temp · instr block)) := by
  rw [visitPlain_seekingMissing, danglingOperand?]
  cases operand.slot?.filter fun slot => !procedure.hasSlot slot <;> rfl

/-- The check of an operand finds its first missing reference. -/
theorem danglingOperand?_eq (block : BlockId) (instr : Instr) (operand : Operand) :
    procedure.danglingOperand? block instr operand =
      procedure.firstMissing? block (operand.references instr) := by
  rw [Operand.references_eq, firstMissing?_append, firstMissing?_map, firstMissing?_map,
    danglingOperand?_eq_visitPlain, visitPlain_seekingMissing]
  cases operand.slot? with
  | none => rfl
  | some slot =>
      cases present : procedure.hasSlot slot with
      | true => simp [has, present, Option.filter, Reference.danglingIn]
      | false => simp [has, present, Option.filter, Reference.danglingIn]

/-- The check of an instruction finds its first missing reference. -/
theorem danglingInstr?_eq (block : BlockId) (instr : Instr) :
    procedure.danglingInstr? block instr = procedure.firstMissing? block instr.references := by
  rw [Instr.references, firstMissing?_flatMap, danglingInstr?]
  exact congrArg (instr.operands.findSome? ·) (funext (procedure.danglingOperand?_eq block instr))

/-- The check of a block finds its first missing reference, edges apart. -/
theorem danglingBlock?_eq (block : Block) :
    procedure.danglingBlock? block = procedure.firstMissing? block.id block.otherReferences := by
  rw [Block.otherReferences, firstMissing?_append, firstMissing?_map, firstMissing?_flatMap,
    danglingBlock?]
  rw [← funext (procedure.danglingInstr?_eq block.id)]
  cases missing : block.predecessors.find? fun source => !procedure.hasBlock source with
  | none => simp [has, missing]
  | some source => simp [has, missing, Reference.danglingIn]

/-- The check of edges finds the first block with a missing target. -/
theorem danglingSuccessor?_eq :
    procedure.danglingSuccessor? = procedure.blocks.findSome? fun block =>
      procedure.firstMissing? block.id block.edgeReferences := by
  rw [danglingSuccessor?]
  congr 1
  funext block
  rw [Block.edgeReferences, firstMissing?_map, Block.targets, List.find?_map, Option.map_map]
  rfl

/-- The check looks for the first of all references that leads outside. -/
theorem dangling?_eq :
    procedure.dangling? =
      (procedure.references.find? fun held => !procedure.has held.2).map
        fun held => held.2.danglingIn held.1.id := by
  have perBlock (references : Block → List Reference) :
      ((procedure.blocks.flatMap fun block => (references block).map (block, ·)).find?
          fun held => !procedure.has held.2).map (fun held => held.2.danglingIn held.1.id) =
        procedure.blocks.findSome? fun block =>
          procedure.firstMissing? block.id (references block) := by
    rw [List.find?_flatMap, List.map_findSome?]
    congr 1
    funext block
    simp only [Function.comp_apply, List.find?_map, Option.map_map, firstMissing?]
    rfl
  rw [dangling?, references, List.find?_append, Option.map_or, perBlock, perBlock,
    danglingSuccessor?_eq, funext procedure.danglingBlock?_eq]

/-- The check accepts exactly the well-formed procedures. -/
theorem check_eq_ok_iff : procedure.check = .ok () ↔ procedure.WellFormed := by
  have accepted : procedure.check = .ok () ↔ procedure.dangling? = none := by
    rw [check]
    cases procedure.dangling? <;> simp [refuse]
  rw [accepted, dangling?_eq, Option.map_eq_none_iff, List.find?_eq_none,
    wellFormed_iff_references]
  simp only [Bool.not_eq_true', Bool.not_eq_false, has_iff]

/-- The check refuses a procedure by its first missing reference and by nothing else. -/
theorem check_eq_error_iff (fault : Fault) :
    procedure.check = .error fault ↔
      ∃ held, procedure.references.find? (fun held => !procedure.has held.2) = some held ∧
        .dangling (held.2.danglingIn held.1.id) = fault := by
  rw [check, dangling?_eq]
  cases procedure.references.find? fun held => !procedure.has held.2 with
  | none => simp [refuse]
  | some held => simp [refuse]

/-- The message of a dangling reference says what is missing and in which block. -/
theorem message_danglingIn (block : BlockId) (reference : Reference) :
    (Fault.dangling (reference.danglingIn block)).message =
      "Dangling reference: " ++ reference.text ++ " of block " ++ block.text := by
  have closing (held : String) : held ++ "` of block " = held ++ "`" ++ " of block " := by
    rw [String.append_assoc]
    rfl
  have described : (reference.danglingIn block).message =
      reference.text ++ " of block " ++ block.text := by
    cases reference with
    | successor target => rfl
    | predecessor source => rfl
    | slot named instr => exact congrArg (· ++ block.text) (closing _)
    | temp value instr => exact congrArg (· ++ block.text) (closing _)
  change "Dangling reference: " ++ (reference.danglingIn block).message = _
  rw [described, ← String.append_assoc, ← String.append_assoc]

/-- **The check is exact.** It accepts a procedure if and only if the procedure is
well formed. Otherwise it names the first reference that leads outside, and the
block that holds it by the block's own number. -/
theorem check_names_first_dangling (procedure : Procedure) :
    (procedure.check = .ok () ↔ procedure.WellFormed) ∧
      ∀ fault, procedure.check = .error fault ↔
        ∃ earlier block reference later,
          procedure.references = earlier ++ (block, reference) :: later ∧
            (∀ held ∈ earlier, held.2.Within procedure.scope) ∧
            ¬ reference.Within procedure.scope ∧
            fault = .dangling (reference.danglingIn block.id) ∧
            fault.message =
              "Dangling reference: " ++ reference.text ++ " of block " ++ block.id.text := by
  refine ⟨procedure.check_eq_ok_iff, fun fault => ?_⟩
  rw [check_eq_error_iff]
  constructor
  · rintro ⟨⟨block, reference⟩, found, rfl⟩
    obtain ⟨missing, earlier, later, split, present⟩ := List.find?_eq_some_iff_append.mp found
    refine ⟨earlier, block, reference, later, split, ?_, ?_, rfl, message_danglingIn _ _⟩
    · intro held member
      have kept := present held member
      rw [Bool.not_not] at kept
      exact (procedure.has_iff held.2).mp kept
    · intro within
      rw [(procedure.has_iff reference).mpr within] at missing
      cases missing
  · rintro ⟨earlier, block, reference, later, split, within, outside, rfl, -⟩
    refine ⟨(block, reference), ?_, rfl⟩
    refine List.find?_eq_some_iff_append.mpr ⟨?_, earlier, later, split, ?_⟩
    · rw [← procedure.has_iff, Bool.not_eq_true] at outside
      rw [outside]
      rfl
    · intro held member
      rw [Bool.not_not]
      exact (procedure.has_iff held.2).mpr (within held member)

end Procedure

end BackendIR
