import BackendIR.Operand.Basic

/-!
# Operand text and fingerprints

An immediate follows a dollar sign, memory is an optional offset and a bracket,
and zero offsets and unit scales are left out. A fingerprint is the number of
the operand's shape plus everything in it, in wrapping 32-bit arithmetic.
-/

namespace BackendIR.Operand

/-- An offset is written unless it is zero. -/
def offsetText (offset : Int32) : String :=
  if offset = 0 then "" else Numeral.signedDecimal offset.toInt

/-- A scale is written after a comma unless it is one. -/
def scaleText (scale : UInt8) : String :=
  if scale = 1 then "" else "," ++ Numeral.decimal scale.toNat

/-- The text of an operand. Numbers and bit patterns of one value read alike. -/
def text : Operand → String
  | .temp value => value.text
  | .number value | .pattern value => "$" ++ Numeral.signedDecimal value.toInt
  | .number64 low high | .pattern64 low high =>
      "$0x" ++ Numeral.signedHex high.toInt ++ ":" ++ Numeral.signedHex low.toInt
  | .address base offset => offsetText offset ++ "(" ++ base.text ++ ")"
  | .stack slot offset => offsetText offset ++ "(" ++ slot.text ++ ")"
  | .outgoing offset => offsetText offset ++ "(callArg)"
  | .indexed base index scale offset =>
      offsetText offset ++ "(" ++ base.text ++ "," ++ index.text ++ scaleText scale ++ ")"
  | .comparison condition => condition.text
  | .resultTest condition => condition.text
  | .floatComparison condition => condition.text
  | .special => "special"
  | .width tag => tag.text

/-- The sum of everything in the operand but its shape. -/
def payload : Operand → UInt32
  | .temp value => value.fingerprint.toUInt32
  | .number value | .pattern value => value.toUInt32
  | .number64 low high | .pattern64 low high => low.toUInt32 + high.toUInt32
  | .address base offset => offset.toUInt32 + base.fingerprint.toUInt32
  | .stack slot offset => offset.toUInt32 + slot.index
  | .outgoing offset => offset.toUInt32
  | .indexed base index scale offset =>
      offset.toUInt32 + scale.toUInt32 + base.fingerprint.toUInt32 + index.fingerprint.toUInt32
  | .comparison condition => condition.code.toUInt32
  | .resultTest condition => condition.code.toUInt32
  | .floatComparison condition => condition.code.toUInt32
  | .special => 0
  | .width tag => tag.bits

/-- The operand's fingerprint. -/
def fingerprint (operand : Operand) : UInt32 :=
  operand.kind.code + operand.payload

end BackendIR.Operand
