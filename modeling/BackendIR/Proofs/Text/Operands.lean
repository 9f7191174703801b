import BackendIR.Operand.Text
import BackendIR.Proofs.Text.Numerals

/-!
# Reading operands back

The text of an operand determines the operand up to what is not written: whether an immediate
is a number or a bit pattern, and the bank of a spilled temporary. `BackendIR.Operand.asPrinted`
forgets just that, and `BackendIR.Operand.read` finds the rest in the text
(`BackendIR.Operand.read_text`). It goes by the marks within the text: an opening bracket
stands in memory operands only, commas divide what is in the brackets, a colon divides the
halves of a wide immediate. No name and no numeral has a mark in it
(`BackendIR.Operand.Unmarked`).
-/

namespace BackendIR

/-! ### Marks -/

/-- A text without blanks and without the marks that divide an operand's text. -/
abbrev Operand.Unmarked : String → Prop :=
  MadeOf fun char => char ∉ ['(', ',', ':'] ∧ char.isWhitespace = false

namespace Operand.Unmarked

/-- An unmarked text has no blanks. -/
theorem solid {text : String} (unmarked : Unmarked text) : Solid text :=
  unmarked.mono fun _ => And.right

private theorem bracket {text : String} (unmarked : Unmarked text) : '(' ∉ text.toList :=
  fun member => (unmarked _ member).1 (by simp)

private theorem comma {text : String} (unmarked : Unmarked text) : ',' ∉ text.toList :=
  fun member => (unmarked _ member).1 (by simp)

private theorem colon {text : String} (unmarked : Unmarked text) : ':' ∉ text.toList :=
  fun member => (unmarked _ member).1 (by simp)

private theorem of_glyphs {text : String} (made : MadeOf (· ∈ Numeral.glyphs) text) :
    Unmarked text :=
  Numeral.madeOf_of_glyphs (by decide) made

private theorem decimal (number : Nat) : Unmarked (Numeral.decimal number) :=
  of_glyphs (Numeral.madeOf_decimal number)

private theorem signedDecimal (value : Int) : Unmarked (Numeral.signedDecimal value) :=
  of_glyphs (Numeral.madeOf_signedDecimal value)

private theorem signedHex (value : Int) : Unmarked (Numeral.signedHex value) :=
  of_glyphs (Numeral.madeOf_signedHex value)

private theorem slot (slot : SlotId) : Unmarked slot.text :=
  .append (by decide) (decimal _)

/-- The text of a value is unmarked. -/
theorem temp (temp : Temp) : Unmarked temp.text := by
  cases temp with
  | virtual bank index => cases bank <;> exact .append (by decide) (decimal _)
  | register holder =>
      have names : ∀ register ∈ Register.all, Unmarked register.text := by decide
      exact names holder (Register.mem_all holder)
  | spilled place bank => exact .append (by decide) (slot place)

private theorem offset (offset : Int32) : Unmarked (offsetText offset) := by
  unfold offsetText
  split
  · decide
  · exact signedDecimal _

end Operand.Unmarked

/-! ### Temporaries -/

namespace Temp

/-- The temporary as its text shows it: the bank of a spilled one is not written. -/
def asPrinted : Temp → Temp
  | .spilled slot _ => .spilled slot .gp
  | temp => temp

/-- A value is written as its text shows it. -/
@[simp] theorem text_asPrinted (temp : Temp) : temp.asPrinted.text = temp.text := by
  cases temp <;> rfl

/-- The temporary with a given text. -/
def read : List Char → Option Temp
  | '%' :: 't' :: 'm' :: 'p' :: digits => some (.virtual .gp (.ofNat (Numeral.read 10 digits)))
  | '%' :: 'f' :: 't' :: 'm' :: 'p' :: digits =>
      some (.virtual .fp (.ofNat (Numeral.read 10 digits)))
  | '%' :: 's' :: 'l' :: 'o' :: 't' :: digits =>
      some (.spilled ⟨.ofNat (Numeral.read 10 digits)⟩ .gp)
  | '%' :: name => (Register.ofName? (String.ofList name)).map .register
  | _ => none

/-- A value can be read back from its text, except for the bank of a spilled one. -/
theorem read_text (temp : Temp) : read temp.text.toList = some temp.asPrinted := by
  have number (word : UInt32) :
      UInt32.ofNat (Numeral.read 10 (Numeral.decimal word.toNat).toList) = word := by
    rw [Numeral.read_decimal, UInt32.ofNat_toNat]
  cases temp with
  | virtual bank index =>
      cases bank with
      | gp =>
          rw [text, String.toList_append]
          exact congrArg (fun index => some (virtual .gp index)) (number index)
      | fp =>
          rw [text, String.toList_append]
          exact congrArg (fun index => some (virtual .fp index)) (number index)
  | register holder =>
      have names : ∀ register ∈ Register.all,
          read register.text.toList = some (.register register) := by decide
      exact names holder (Register.mem_all holder)
  | spilled slot bank =>
      rw [text, SlotId.text, String.toList_append, String.toList_append]
      exact congrArg (fun index => some (spilled ⟨index⟩ .gp)) (number slot.index)

private theorem exists_toList_text (temp : Temp) : ∃ name, temp.text.toList = '%' :: name := by
  cases temp with
  | virtual bank index => cases bank <;> exact ⟨_, by rw [text, String.toList_append]; rfl⟩
  | register holder => exact ⟨_, by rw [text, Register.text, String.toList_append]; rfl⟩
  | spilled slot bank => exact ⟨_, by rw [text, String.toList_append]; rfl⟩

end Temp

namespace Operand

/-- The operand as its text shows it. Bit patterns are written as numbers. -/
def asPrinted : Operand → Operand
  | .temp value => .temp value.asPrinted
  | .pattern value => .number value
  | .pattern64 low high => .number64 low high
  | .address base offset => .address base.asPrinted offset
  | .indexed base index scale offset => .indexed base.asPrinted index.asPrinted scale offset
  | operand => operand

/-- An operand is written as its text shows it. -/
@[simp] theorem text_asPrinted (operand : Operand) : operand.asPrinted.text = operand.text := by
  cases operand <;> simp [asPrinted, text]

/-! ### Readers -/

/-- The operands that are written as one fixed word each. -/
def words : List Operand :=
  Comparison.all.map .comparison ++ ResultTest.all.map .resultTest ++
    FloatComparison.all.map .floatComparison ++ [.special] ++ Width.all.map .width

/-- The memory operand with a given offset and given texts in the brackets. -/
def readPlace (offset : Int32) : List (List Char) → Option Operand
  | [place] =>
      match place with
      | '%' :: _ => (Temp.read place).map (.address · offset)
      | 's' :: 'l' :: 'o' :: 't' :: digits =>
          some (.stack ⟨.ofNat (Numeral.read 10 digits)⟩ offset)
      | _ => some (.outgoing offset)
  | base :: index :: scale => do
      let scale := scale.head?.elim 1 (fun digits => UInt8.ofNat (Numeral.read 10 digits))
      return .indexed (← Temp.read base) (← Temp.read index) scale offset
  | [] => none

/-- The immediate with a given text behind the dollar sign. -/
def readImmediate (value : List Char) : Operand :=
  match value.splitOn ':' with
  | [high, low] => .number64 (.ofInt (Numeral.readSigned 16 low))
      (.ofInt (Numeral.readSigned 16 (high.drop 2)))
  | _ => .number (.ofInt (Numeral.readSigned 10 value))

/-- The operand with a given text that has no brackets. -/
def readPlain : List Char → Option Operand
  | '%' :: name => (Temp.read ('%' :: name)).map .temp
  | '$' :: value => some (readImmediate value)
  | word => words.find? (fun operand => operand.text.toList == word)

/-- The operand with a given text, as far as the text determines it. -/
def read (chars : List Char) : Option Operand :=
  match chars.splitOn '(' with
  | [offset, place] =>
      readPlace (.ofInt (Numeral.readSigned 10 offset)) (place.dropLast.splitOn ',')
  | _ => readPlain chars

/-! ### Reading back -/

/-- A text without brackets is read as a value, an immediate or a word. -/
theorem read_of_no_bracket {chars : List Char} (plain : '(' ∉ chars) :
    read chars = readPlain chars := by
  unfold read
  rw [List.splitOn_eq_singleton plain]

/-- A text with brackets is read as the offset before them and the place inside them. -/
theorem read_bracketed (offset : Int32) {place : String} (plain : '(' ∉ place.toList) :
    read (offsetText offset ++ "(" ++ place ++ ")").toList =
      readPlace offset (place.toList.splitOn ',') := by
  have number : Int32.ofInt (Numeral.readSigned 10 (offsetText offset).toList) = offset := by
    unfold offsetText
    split
    next zero => exact zero.symm
    next => rw [Numeral.readSigned_signedDecimal, Int32.ofInt_toInt]
  have shape : (offsetText offset ++ "(" ++ place ++ ")").toList =
      (offsetText offset).toList ++ '(' :: (place.toList ++ [')']) := by
    simp
  have closed : '(' ∉ place.toList ++ [')'] := by simp [plain]
  rw [shape]
  unfold read
  rw [List.splitOn_append_cons_self_of_not_mem (Unmarked.offset offset).bracket,
    List.splitOn_eq_singleton closed]
  change readPlace (.ofInt (Numeral.readSigned 10 (offsetText offset).toList))
    ((place.toList ++ [')']).dropLast.splitOn ',') = _
  rw [number, List.dropLast_concat]

/-- A narrow immediate can be read back. -/
theorem readImmediate_signedDecimal (value : Int32) :
    readImmediate (Numeral.signedDecimal value.toInt).toList = .number value := by
  unfold readImmediate
  rw [List.splitOn_eq_singleton (Unmarked.signedDecimal _).colon]
  change number (.ofInt (Numeral.readSigned 10 (Numeral.signedDecimal value.toInt).toList)) =
    number value
  rw [Numeral.readSigned_signedDecimal, Int32.ofInt_toInt]

/-- A wide immediate can be read back from its two halves. -/
theorem readImmediate_signedHex (low high : Int32) :
    readImmediate ("0x" ++ Numeral.signedHex high.toInt ++ ":" ++
      Numeral.signedHex low.toInt).toList = .number64 low high := by
  have shape : ("0x" ++ Numeral.signedHex high.toInt ++ ":" ++
      Numeral.signedHex low.toInt).toList =
      ("0x" ++ Numeral.signedHex high.toInt).toList ++ ':' ::
        (Numeral.signedHex low.toInt).toList := by
    simp
  have first : ':' ∉ ("0x" ++ Numeral.signedHex high.toInt).toList :=
    Unmarked.colon (.append (by decide) (Unmarked.signedHex _))
  unfold readImmediate
  rw [shape, List.splitOn_append_cons_self_of_not_mem first,
    List.splitOn_eq_singleton (Unmarked.signedHex _).colon, String.toList_append]
  change number64 (.ofInt (Numeral.readSigned 16 (Numeral.signedHex low.toInt).toList))
    (.ofInt (Numeral.readSigned 16 (Numeral.signedHex high.toInt).toList)) = number64 low high
  rw [Numeral.readSigned_signedHex, Numeral.readSigned_signedHex, Int32.ofInt_toInt,
    Int32.ofInt_toInt]

/-- A text behind a dollar sign is read as an immediate. -/
theorem read_immediate {value : String} (plain : '(' ∉ value.toList) :
    read ("$" ++ value).toList = some (readImmediate value.toList) := by
  have noBracket : '(' ∉ ("$" ++ value).toList := by simp [plain]
  rw [read_of_no_bracket noBracket, String.toList_append]
  rfl

/-- The fixed words are unmarked. -/
theorem Unmarked.word : ∀ word ∈ words, Unmarked word.text := by decide +kernel

/-- No two of the fixed words are the same, so that each can be read back. -/
theorem read_word : ∀ word ∈ words, read word.text.toList = some word := by
  have found : ∀ word ∈ words, readPlain word.text.toList = some word := by decide +kernel
  intro word member
  rw [read_of_no_bracket (Unmarked.word word member).bracket, found word member]

/-- A base alone in the brackets is read as an address. -/
theorem readPlace_temp (offset : Int32) (base : Temp) :
    readPlace offset [base.text.toList] = some (.address base.asPrinted offset) := by
  obtain ⟨name, shape⟩ := base.exists_toList_text
  have readBack := base.read_text
  rw [shape] at readBack ⊢
  change (Temp.read ('%' :: name)).map (address · offset) = _
  rw [readBack]
  rfl

/-- A slot in the brackets is read as stack storage. -/
theorem readPlace_slot (offset : Int32) (slot : SlotId) :
    readPlace offset [slot.text.toList] = some (.stack slot offset) := by
  rw [SlotId.text, String.toList_append]
  change some (stack ⟨.ofNat (Numeral.read 10 (Numeral.decimal slot.index.toNat).toList)⟩ offset) =
    some (stack slot offset)
  rw [Numeral.read_decimal, UInt32.ofNat_toNat]

/-- A base, an index and a scale in the brackets are read as an indexed address. -/
theorem readPlace_indexed (offset : Int32) (base index : Temp) (scale : UInt8) :
    readPlace offset
        ((base.text ++ "," ++ index.text ++ scaleText scale).toList.splitOn ',') =
      some (.indexed base.asPrinted index.asPrinted scale offset) := by
  have baseEnds : ',' ∉ base.text.toList := (Unmarked.temp base).comma
  have indexEnds : ',' ∉ index.text.toList := (Unmarked.temp index).comma
  have scaleEnds : ',' ∉ (Numeral.decimal scale.toNat).toList :=
    (Unmarked.decimal _).comma
  unfold scaleText
  split
  next unit =>
    have shape : (base.text ++ "," ++ index.text ++ "").toList =
        base.text.toList ++ ',' :: index.text.toList := by
      simp
    rw [shape, List.splitOn_append_cons_self_of_not_mem baseEnds,
      List.splitOn_eq_singleton indexEnds, unit]
    simp [readPlace, Temp.read_text]
  next =>
    have shape : (base.text ++ "," ++ index.text ++ ("," ++ Numeral.decimal scale.toNat)).toList =
        base.text.toList ++ ',' :: (index.text.toList ++ ',' ::
          (Numeral.decimal scale.toNat).toList) := by
      simp
    rw [shape, List.splitOn_append_cons_self_of_not_mem baseEnds,
      List.splitOn_append_cons_self_of_not_mem indexEnds, List.splitOn_eq_singleton scaleEnds]
    simp [readPlace, Temp.read_text]

/-- **An operand's text can be read back**, up to what is not written. -/
theorem read_text (operand : Operand) : read operand.text.toList = some operand.asPrinted := by
  cases operand with
  | temp value =>
      obtain ⟨name, shape⟩ := value.exists_toList_text
      have readBack := value.read_text
      rw [text, read_of_no_bracket (Unmarked.temp value).bracket]
      rw [shape] at readBack ⊢
      exact congrArg (Option.map temp) readBack
  | number value | pattern value =>
      rw [text, read_immediate (Unmarked.signedDecimal _).bracket,
        readImmediate_signedDecimal]
      rfl
  | number64 low high | pattern64 low high =>
      have prefixed : text (.number64 low high) = "$" ++ ("0x" ++ Numeral.signedHex high.toInt ++
          ":" ++ Numeral.signedHex low.toInt) := by
        have sign : "$0x" = "$" ++ "0x" := rfl
        simp only [text, sign, String.append_assoc]
      have noBracket : '(' ∉ ("0x" ++ Numeral.signedHex high.toInt ++ ":" ++
          Numeral.signedHex low.toInt).toList := by
        simp [(Unmarked.signedHex high.toInt).bracket, (Unmarked.signedHex low.toInt).bracket]
      change read (text (.number64 low high)).toList = _
      rw [prefixed, read_immediate noBracket, readImmediate_signedHex]
      rfl
  | address base offset =>
      have plain := Unmarked.temp base
      rw [text, read_bracketed offset plain.bracket,
        List.splitOn_eq_singleton plain.comma, readPlace_temp]
      rfl
  | stack slot offset =>
      have plain := Unmarked.slot slot
      rw [text, read_bracketed offset plain.bracket,
        List.splitOn_eq_singleton plain.comma, readPlace_slot]
      rfl
  | outgoing offset =>
      have closed : text (.outgoing offset) = offsetText offset ++ "(" ++ "callArg" ++ ")" := by
        simp only [text, String.append_assoc]
        rfl
      have place : Unmarked "callArg" := by decide
      rw [closed, read_bracketed offset place.bracket,
        List.splitOn_eq_singleton place.comma]
      rfl
  | indexed base index scale offset =>
      have grouped : text (.indexed base index scale offset) =
          offsetText offset ++ "(" ++ (base.text ++ "," ++ index.text ++ scaleText scale) ++
            ")" := by
        simp only [text, String.append_assoc]
      have noBracket : '(' ∉ (base.text ++ "," ++ index.text ++ scaleText scale).toList := by
        have scaled : '(' ∉ (scaleText scale).toList := by
          unfold scaleText
          split
          · decide
          · simp [(Unmarked.decimal scale.toNat).bracket]
        simp [(Unmarked.temp base).bracket, (Unmarked.temp index).bracket, scaled]
      rw [grouped, read_bracketed offset noBracket, readPlace_indexed]
      rfl
  | comparison condition => exact read_word _ (by cases condition <;> decide)
  | resultTest condition => exact read_word _ (by cases condition <;> decide)
  | floatComparison condition => exact read_word _ (by cases condition <;> decide)
  | special => exact read_word _ (by decide)
  | width tag => exact read_word _ (by cases tag <;> decide)

/-- Two operands have one text just when they differ in nothing that is written. -/
theorem text_eq_iff {left right : Operand} :
    left.text = right.text ↔ left.asPrinted = right.asPrinted := by
  constructor
  · intro same
    have readings := congrArg (fun text => read text.toList) same
    simpa [read_text] using readings
  · intro same
    rw [← text_asPrinted left, same, text_asPrinted]

/-- No operand has an empty text. -/
theorem text_ne_empty (operand : Operand) : operand.text ≠ "" := by
  cases operand with
  | temp value =>
      obtain ⟨name, shape⟩ := value.exists_toList_text
      exact fun empty => absurd (shape.symm.trans (congrArg String.toList empty)) (by simp)
  | comparison condition => cases condition <;> simp [text, Comparison.text]
  | resultTest condition => cases condition <;> simp [text, ResultTest.text]
  | floatComparison condition => cases condition <;> simp [text, FloatComparison.text]
  | width tag => cases tag <;> decide
  | _ => simp [text]

/-- An operand's text has commas in it, but no blanks. -/
theorem solid_text (operand : Operand) : Solid operand.text := by
  cases operand with
  | temp value => exact (Unmarked.temp value).solid
  | number value | pattern value => exact .append (by decide) (Unmarked.signedDecimal _).solid
  | number64 low high | pattern64 low high =>
      exact .append (.append (.append (by decide) (Unmarked.signedHex _).solid) (by decide))
        (Unmarked.signedHex _).solid
  | address base offset =>
      exact .append (.append (.append (Unmarked.offset offset).solid (by decide))
        (Unmarked.temp base).solid) (by decide)
  | stack slot offset =>
      exact .append (.append (.append (Unmarked.offset offset).solid (by decide))
        (Unmarked.slot slot).solid) (by decide)
  | outgoing offset => exact .append (Unmarked.offset offset).solid (by decide)
  | indexed base index scale offset =>
      have scaled : Solid (scaleText scale) := by
        unfold scaleText
        split
        · decide
        · exact .append (by decide) (Numeral.solid_decimal _)
      exact .append (.append (.append (.append (.append (.append (Unmarked.offset offset).solid
        (by decide)) (Unmarked.temp base).solid) (by decide)) (Unmarked.temp index).solid) scaled)
        (by decide)
  | comparison condition => exact (Unmarked.word _ (by cases condition <;> decide)).solid
  | resultTest condition => exact (Unmarked.word _ (by cases condition <;> decide)).solid
  | floatComparison condition => exact (Unmarked.word _ (by cases condition <;> decide)).solid
  | special => exact (Unmarked.word _ (by decide)).solid
  | width tag => exact (Unmarked.word _ (by cases tag <;> decide)).solid

end Operand

end BackendIR
