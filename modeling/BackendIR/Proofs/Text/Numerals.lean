import BackendIR.Frequency
import BackendIR.Proofs.Text.Pieces

/-!
# Reading numerals back

A numeral determines its number: its digits can be read back in the base in which they were
written (`BackendIR.Numeral.read_toDigits`), with a minus sign in front of them or not
(`BackendIR.Numeral.Spelling.readSigned`). Numerals are made of few characters
(`BackendIR.Numeral.glyphs`), so that whatever else stands next to one in a text marks its
end. In particular no weight has a line feed in it.
-/

namespace BackendIR

namespace Numeral

/-! ### Characters -/

/-- The characters that numerals are made of. -/
def glyphs : List Char :=
  ['-', '0', '1', '2', '3', '4', '5', '6', '7', '8', '9', 'a', 'b', 'c', 'd', 'e', 'f']

private theorem exists_digit_of_mem_toDigits {base number : Nat} {char : Char} (many : 1 < base)
    (member : char ∈ Nat.toDigits base number) : ∃ digit < base, char = digit.digitChar := by
  induction number using Nat.base_induction base many with
  | single digit small =>
      rw [Nat.toDigits_of_lt_base small, List.mem_singleton] at member
      exact ⟨digit, small, member⟩
  | digit front digit small positive ih =>
      rw [← Nat.toDigits_append_toDigits many positive small, Nat.toDigits_of_lt_base small]
        at member
      rcases List.mem_append.mp member with earlier | last
      · exact ih earlier
      · exact ⟨digit, small, List.mem_singleton.mp last⟩

private theorem digitChar_mem_glyphs : ∀ digit < 16, digit.digitChar ∈ glyphs.tail := by decide

/-! ### Reading -/

/-- The value of a digit in any base up to sixteen. -/
def digitValue (char : Char) : Nat :=
  if char.isDigit then char.toNat - 48 else char.toNat - 87

private theorem digitValue_digitChar : ∀ digit < 16, digitValue digit.digitChar = digit := by decide

/-- The number that digits stand for in a base. -/
def read (base : Nat) (digits : List Char) : Nat :=
  digits.foldl (fun number char => base * number + digitValue char) 0

/-- The digits of a number stand for it. -/
theorem read_toDigits {base : Nat} (many : 1 < base) (few : base ≤ 16) (number : Nat) :
    read base (Nat.toDigits base number) = number := by
  induction number using Nat.base_induction base many with
  | single digit small =>
      rw [Nat.toDigits_of_lt_base small]
      simp [read, digitValue_digitChar digit (by omega)]
  | digit front digit small positive ih =>
      rw [← Nat.toDigits_append_toDigits many positive small, Nat.toDigits_of_lt_base small]
      unfold read at ih ⊢
      rw [List.foldl_append, ih]
      simp [digitValue_digitChar digit (by omega)]

/-- The number that digits after an optional minus sign stand for. -/
def readSigned (base : Nat) : List Char → Int
  | '-' :: digits => -(read base digits)
  | digits => read base digits

private theorem readSigned_of_no_minus {base : Nat} {digits : List Char} (plain : '-' ∉ digits) :
    readSigned base digits = read base digits := by
  unfold readSigned
  split
  · simp at plain
  · rfl

/-- A way to write numbers by their digits in a base. -/
structure Spelling (base : Nat) (digits : Nat → String) : Prop where
  many : 1 < base
  few : base ≤ 16
  written : ∀ number, (digits number).toList = Nat.toDigits base number

private theorem spelling_decimal : Spelling 10 decimal :=
  ⟨by decide, by decide, fun _ => String.toList_ofList⟩

private theorem spelling_hex : Spelling 16 hex :=
  ⟨by decide, by decide, fun _ => String.toList_ofList⟩

namespace Spelling

variable {base : Nat} {digits : Nat → String} (spelling : Spelling base digits)

include spelling

/-- A spelled number can be read back. -/
theorem read (number : Nat) : Numeral.read base (digits number).toList = number := by
  rw [spelling.written, read_toDigits spelling.many spelling.few]

/-- Digits are not minus signs. -/
theorem madeOf (number : Nat) : MadeOf (· ∈ glyphs.tail) (digits number) := by
  intro char member
  rw [spelling.written] at member
  obtain ⟨digit, small, rfl⟩ := exists_digit_of_mem_toDigits spelling.many member
  exact digitChar_mem_glyphs digit (Nat.lt_of_lt_of_le small spelling.few)

/-- A spelled number with a sign can be read back. -/
theorem readSigned (value : Int) :
    Numeral.readSigned base (signed digits value).toList = value := by
  have readBack := spelling.read value.natAbs
  unfold signed
  by_cases negative : value < 0
  · rw [if_pos negative, String.toList_append]
    change -((Numeral.read base (digits value.natAbs).toList : Nat) : Int) = value
    omega
  · have plain : '-' ∉ (digits value.natAbs).toList := fun minus =>
      absurd (spelling.madeOf _ _ minus) (by decide)
    rw [if_neg negative, String.empty_append, readSigned_of_no_minus plain]
    omega

/-- A spelled number is made of glyphs. -/
theorem madeOf_signed (value : Int) : MadeOf (· ∈ glyphs) (signed digits value) := by
  unfold signed
  refine .append ?_ ((spelling.madeOf _).mono fun _ => List.mem_of_mem_tail)
  split <;> decide

end Spelling

@[simp] theorem read_decimal (number : Nat) : read 10 (decimal number).toList = number :=
  spelling_decimal.read number

@[simp] theorem readSigned_signedDecimal (value : Int) :
    readSigned 10 (signedDecimal value).toList = value :=
  spelling_decimal.readSigned value

@[simp] theorem readSigned_signedHex (value : Int) :
    readSigned 16 (signedHex value).toList = value :=
  spelling_hex.readSigned value

/-- Different numbers have different signed numerals. -/
theorem signedDecimal_injective {left right : Int}
    (same : signedDecimal left = signedDecimal right) : left = right := by
  rw [← readSigned_signedDecimal left, same, readSigned_signedDecimal]

/-! ### Where numerals end -/

theorem madeOf_decimal (number : Nat) : MadeOf (· ∈ glyphs) (decimal number) :=
  (spelling_decimal.madeOf number).mono fun _ => List.mem_of_mem_tail

theorem madeOf_signedDecimal (value : Int) : MadeOf (· ∈ glyphs) (signedDecimal value) :=
  spelling_decimal.madeOf_signed value

theorem madeOf_signedHex (value : Int) : MadeOf (· ∈ glyphs) (signedHex value) :=
  spelling_hex.madeOf_signed value

/-- What is true of all glyphs is true of all characters of a numeral. -/
theorem madeOf_of_glyphs {allowed : Char → Prop} [DecidablePred allowed]
    (fine : glyphs.all (fun char => decide (allowed char))) {text : String}
    (made : MadeOf (· ∈ glyphs) text) : MadeOf allowed text :=
  made.mono fun char member => of_decide_eq_true (List.all_eq_true.mp fine char member)

/-- A numeral has no blanks. -/
theorem solid_decimal (number : Nat) : Solid (decimal number) :=
  madeOf_of_glyphs (by decide) (madeOf_decimal number)

/-- A numeral ends where something follows that numerals are not made of. -/
theorem decimal_append_inj {left right : Nat} {leftRest rightRest : List Char}
    (leftStops : Stops (· ∈ glyphs) leftRest) (rightStops : Stops (· ∈ glyphs) rightRest)
    (same : (decimal left).toList ++ leftRest = (decimal right).toList ++ rightRest) :
    left = right ∧ leftRest = rightRest := by
  obtain ⟨numerals, rests⟩ := append_inj_of_stops (madeOf_decimal left) (madeOf_decimal right)
    leftStops rightStops same
  exact ⟨decimal_injective (String.toList_inj.mp numerals), rests⟩

end Numeral

/-! ### Weights -/

namespace Decimal

/-- A positional decimal has digits, zeros and a point. -/
theorem Scientific.madeOf_positional (decimal : Scientific) :
    MadeOf (· ∈ '.' :: Numeral.glyphs) decimal.positional := by
  have digit {char : Char} (member : char ∈ Nat.toDigits 10 decimal.digits) :
      char ∈ '.' :: Numeral.glyphs := by
    rw [← Numeral.spelling_decimal.written] at member
    exact .tail _ (Numeral.madeOf_decimal _ char member)
  have zero {char : Char} {count : Nat} (member : char ∈ List.replicate count '0') :
      char ∈ '.' :: Numeral.glyphs := by
    rw [List.eq_of_mem_replicate member]
    decide
  intro char member
  simp only [positional] at member
  split at member
  · rw [String.toList_ofList] at member
    exact (List.mem_append.mp member).elim digit zero
  · split at member
    · rw [String.toList_ofList] at member
      rcases List.mem_append.mp member with whole | fraction
      · exact digit (List.mem_of_mem_take whole)
      · rcases List.mem_cons.mp fraction with rfl | behind
        · exact .head _
        · exact digit (List.mem_of_mem_drop behind)
    · rw [String.toList_ofList] at member
      rcases List.mem_append.mp member with front | digits
      · rcases List.mem_cons.mp front with rfl | behind
        · decide
        · rcases List.mem_cons.mp behind with rfl | zeros
          · exact .head _
          · exact zero zeros
      · exact digit digits

end Decimal

/-- No weight is written with a line feed. -/
theorem Frequency.oneLine_text (frequency : Frequency) : OneLine frequency.text := by
  have noFeed : '\n' ∉ '.' :: Numeral.glyphs := by decide
  have magnitude : OneLine frequency.magnitudeText := by
    unfold magnitudeText
    split
    · decide
    · split
      · decide
      · intro char member feed
        have within := Decimal.Scientific.madeOf_positional _ char member
        rw [feed] at within
        exact noFeed within
  unfold text
  split
  · decide
  · refine .append ?_ magnitude
    split <;> decide

end BackendIR
