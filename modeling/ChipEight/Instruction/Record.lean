import ChipEight.Instruction

/-!
# The record form of an instruction

Beside the assembly text there is a text that shows how an instruction was decoded: the name of its
kind and its operands by name, numbers in decimal. Braces are written as escapes here because a
brace inside a string opens an interpolation elsewhere.
-/

namespace ChipEight

namespace Record

/-- A name followed by its fields in braces. -/
def ofFields (name : String) (fields : List (String × String)) : String :=
  name ++ " \x7b " ++ ", ".intercalate (fields.map fun f ↦ f.1 ++ ": " ++ f.2) ++ " \x7d"

/-- A name followed by one value in parentheses. -/
def ofValue (name value : String) : String := name ++ "(" ++ value ++ ")"

/-- A nibble with the name of its type. -/
def nibble (n : Nibble) : String := ofValue "u4" (toString n.val)

end Record

def ArithOp.record : ArithOp → String
  | .set => "Set"
  | .or => "Or"
  | .and => "And"
  | .xor => "Xor"
  | .add => "Add"
  | .sub => "Sub"
  | .shiftRight => "ShiftRight"
  | .subReverse => "SubReverse"
  | .shiftLeft => "ShiftLeft"

namespace Instruction

private def withAddress (name : String) (nnn : UInt16) : String :=
  Record.ofFields name [("nnn", toString nnn.toNat)]

private def withRegister (name : String) (x : Nibble) : String :=
  Record.ofFields name [("x", Record.nibble x)]

private def withRegisters (name : String) (x y : Nibble) : String :=
  Record.ofFields name [("x", Record.nibble x), ("y", Record.nibble y)]

private def withByte (name : String) (x : Nibble) (nn : UInt8) : String :=
  Record.ofFields name [("x", Record.nibble x), ("nn", toString nn.toNat)]

def record : Instruction → String
  | .clear => "ClearDisplay"
  | .ret => "Return"
  | .jump nnn => withAddress "Jump" nnn
  | .jumpOffset nnn => withAddress "JumpWithOffset" nnn
  | .call nnn => withAddress "Call" nnn
  | .skipEqualByte x nn => withByte "SkipRegEqualImm" x nn
  | .skipUnequalByte x nn => withByte "SkipRegNotEqualImm" x nn
  | .skipEqual x y => withRegisters "SkipRegEqualReg" x y
  | .skipUnequal x y => withRegisters "SkipRegNotEqualReg" x y
  | .setByte x nn => withByte "SetRegImm" x nn
  | .addByte x nn => withByte "AddRegImm" x nn
  | .setIndex nnn => withAddress "SetIndexImm" nnn
  | .addIndex x => withRegister "AddIndexReg" x
  | .arith op x y =>
    Record.ofFields "ALU" [("x", Record.nibble x), ("y", Record.nibble y), ("op", op.record)]
  | .random x nn => withByte "Random" x nn
  | .draw x y n =>
    Record.ofFields "Draw" [("x", Record.nibble x), ("y", Record.nibble y), ("n", Record.nibble n)]
  | .skipPressed x => withRegister "SkipIfPressed" x
  | .skipNotPressed x => withRegister "SkipIfNotPressed" x
  | .awaitKey x => withRegister "WaitForKey" x
  | .readDelay x => withRegister "ReadDelayTimer" x
  | .setDelay x => withRegister "SetDelayTimer" x
  | .setSound x => withRegister "SetSoundTimer" x
  | .pointGlyph x => withRegister "FontChar" x
  | .storeDecimal x => withRegister "BCD" x
  | .storeRegisters x => withRegister "StoreRegs" x
  | .loadRegisters x => withRegister "LoadRegs" x
  | .unknown word => Record.ofValue "Unknown" (toString word.toNat)

end Instruction

end ChipEight
