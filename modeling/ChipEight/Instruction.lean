import ChipEight.Nibble

/-!
# Instructions

A sixteen-bit word is an instruction. Its top nibble names a family; families `0`, `E` and `F` are
told apart by their low byte and family `8` by its low nibble. A word that matches nothing is an
instruction too, `unknown`, so `decode` is total and it is the cycle that refuses to execute it.

The fields `x` and `y` name registers, `n` is a nibble, `nn` a byte and `nnn` an address. Addresses
are words: `decode` fills them with twelve bits, but an instruction built by hand may hold more.
-/

namespace ChipEight

/-- What family `8` does with two registers. -/
inductive ArithOp where
  /-- `8xy0`: copy `Vy`. -/
  | set
  /-- `8xy1`: bitwise or. -/
  | or
  /-- `8xy2`: bitwise and. -/
  | and
  /-- `8xy3`: bitwise exclusive or. -/
  | xor
  /-- `8xy4`: add, with the carry as flag. -/
  | add
  /-- `8xy5`: subtract `Vy`, with the absence of a borrow as flag. -/
  | sub
  /-- `8xy6`: halve `Vx`, with the bit shifted out as flag. -/
  | shiftRight
  /-- `8xy7`: subtract from `Vy`, with the absence of a borrow as flag. -/
  | subReverse
  /-- `8xyE`: double `Vx`, with the bit shifted out as flag. -/
  | shiftLeft
  deriving DecidableEq, Repr

/-- A decoded instruction. -/
inductive Instruction where
  /-- `00E0`: clear the display. -/
  | clear
  /-- `00EE`: return from a subroutine. -/
  | ret
  /-- `1nnn`: jump to `nnn`. -/
  | jump (nnn : UInt16)
  /-- `Bnnn`: jump to `nnn + V0`. -/
  | jumpOffset (nnn : UInt16)
  /-- `2nnn`: call the subroutine at `nnn`. -/
  | call (nnn : UInt16)
  /-- `3xnn`: skip the next instruction if `Vx = nn`. -/
  | skipEqualByte (x : Nibble) (nn : UInt8)
  /-- `4xnn`: skip the next instruction if `Vx ≠ nn`. -/
  | skipUnequalByte (x : Nibble) (nn : UInt8)
  /-- `5xy0`: skip the next instruction if `Vx = Vy`. -/
  | skipEqual (x y : Nibble)
  /-- `9xy0`: skip the next instruction if `Vx ≠ Vy`. -/
  | skipUnequal (x y : Nibble)
  /-- `6xnn`: put `nn` into `Vx`. -/
  | setByte (x : Nibble) (nn : UInt8)
  /-- `7xnn`: add `nn` to `Vx`, leaving the flag alone. -/
  | addByte (x : Nibble) (nn : UInt8)
  /-- `Annn`: put `nnn` into `I`. -/
  | setIndex (nnn : UInt16)
  /-- `Fx1E`: add `Vx` to `I`. -/
  | addIndex (x : Nibble)
  /-- `8xyN`: combine `Vx` and `Vy` into `Vx`. -/
  | arith (op : ArithOp) (x y : Nibble)
  /-- `Cxnn`: put a random byte, masked by `nn`, into `Vx`. -/
  | random (x : Nibble) (nn : UInt8)
  /-- `Dxyn`: draw the `n` sprite bytes at `I` at column `Vx`, row `Vy`. -/
  | draw (x y n : Nibble)
  /-- `Ex9E`: skip the next instruction if the key named by `Vx` is pressed. -/
  | skipPressed (x : Nibble)
  /-- `ExA1`: skip the next instruction if the key named by `Vx` is not pressed. -/
  | skipNotPressed (x : Nibble)
  /-- `Fx0A`: wait for a key and put its number into `Vx`. -/
  | awaitKey (x : Nibble)
  /-- `Fx07`: put the delay timer into `Vx`. -/
  | readDelay (x : Nibble)
  /-- `Fx15`: put `Vx` into the delay timer. -/
  | setDelay (x : Nibble)
  /-- `Fx18`: put `Vx` into the sound timer. -/
  | setSound (x : Nibble)
  /-- `Fx29`: point `I` at the glyph of the digit `Vx`. -/
  | pointGlyph (x : Nibble)
  /-- `Fx33`: write the three decimal digits of `Vx` at `I`. -/
  | storeDecimal (x : Nibble)
  /-- `Fx55`: write `V0` to `Vx` at `I`. -/
  | storeRegisters (x : Nibble)
  /-- `Fx65`: read `V0` to `Vx` from `I`. -/
  | loadRegisters (x : Nibble)
  /-- A word that is no instruction of the machine. -/
  | unknown (word : UInt16)
  deriving DecidableEq, Repr

/-- The operation of family `8` named by the low nibble. -/
def ArithOp.ofNibble? (n : Nibble) : Option ArithOp :=
  match n.val with
  | 0x0 => some .set
  | 0x1 => some .or
  | 0x2 => some .and
  | 0x3 => some .xor
  | 0x4 => some .add
  | 0x5 => some .sub
  | 0x6 => some .shiftRight
  | 0x7 => some .subReverse
  | 0xE => some .shiftLeft
  | _ => none

namespace Instruction

/-- The instruction of a word. The top nibble has sixteen values, so `F` is the last case of the
match and no case is left over. -/
def decode (w : UInt16) : Instruction :=
  let x := Nibble.low (w >>> 8)
  let y := Nibble.low (w >>> 4)
  let n := Nibble.low w
  let nn := w.toUInt8
  let nnn := w &&& 0x0FFF
  match (Nibble.low (w >>> 12)).val with
  | 0x0 =>
    match nn.toNat with
    | 0xE0 => .clear
    | 0xEE => .ret
    | _ => .unknown w
  | 0x1 => .jump nnn
  | 0x2 => .call nnn
  | 0x3 => .skipEqualByte x nn
  | 0x4 => .skipUnequalByte x nn
  | 0x5 => .skipEqual x y
  | 0x6 => .setByte x nn
  | 0x7 => .addByte x nn
  | 0x8 =>
    match ArithOp.ofNibble? n with
    | some op => .arith op x y
    | none => .unknown w
  | 0x9 => .skipUnequal x y
  | 0xA => .setIndex nnn
  | 0xB => .jumpOffset nnn
  | 0xC => .random x nn
  | 0xD => .draw x y n
  | 0xE =>
    match nn.toNat with
    | 0x9E => .skipPressed x
    | 0xA1 => .skipNotPressed x
    | _ => .unknown w
  | _ =>
    match nn.toNat with
    | 0x07 => .readDelay x
    | 0x0A => .awaitKey x
    | 0x15 => .setDelay x
    | 0x18 => .setSound x
    | 0x1E => .addIndex x
    | 0x29 => .pointGlyph x
    | 0x33 => .storeDecimal x
    | 0x55 => .storeRegisters x
    | 0x65 => .loadRegisters x
    | _ => .unknown w

end Instruction

/-!
## Mnemonics

The assembly text of an instruction, as the debugger lists it. Registers are `V` and one digit,
addresses have at least three hexadecimal digits, bytes two and whole words four; a sprite height
is decimal. A word that is no instruction is written as data, `DW`.
-/

def ArithOp.mnemonic : ArithOp → String
  | .set => "LD"
  | .or => "OR"
  | .and => "AND"
  | .xor => "XOR"
  | .add => "ADD"
  | .sub => "SUB"
  | .shiftRight => "SHR"
  | .subReverse => "SUBN"
  | .shiftLeft => "SHL"

namespace Instruction

private def register (x : Nibble) : String := "V" ++ x.digit

private def address (nnn : UInt16) : String := hexLiteral 3 nnn.toNat

private def byte (nn : UInt8) : String := hexLiteral 2 nn.toNat

/-- The assembly text of an instruction. -/
def mnemonic : Instruction → String
  | .clear => "CLS"
  | .ret => "RET"
  | .jump nnn => "JP " ++ address nnn
  | .jumpOffset nnn => "JP V0, " ++ address nnn
  | .call nnn => "CALL " ++ address nnn
  | .skipEqualByte x nn => "SE " ++ register x ++ ", " ++ byte nn
  | .skipUnequalByte x nn => "SNE " ++ register x ++ ", " ++ byte nn
  | .skipEqual x y => "SE " ++ register x ++ ", " ++ register y
  | .skipUnequal x y => "SNE " ++ register x ++ ", " ++ register y
  | .setByte x nn => "LD " ++ register x ++ ", " ++ byte nn
  | .addByte x nn => "ADD " ++ register x ++ ", " ++ byte nn
  | .setIndex nnn => "LD I, " ++ address nnn
  | .addIndex x => "ADD I, " ++ register x
  | .arith op x y => op.mnemonic ++ " " ++ register x ++ ", " ++ register y
  | .random x nn => "RND " ++ register x ++ ", " ++ byte nn
  | .draw x y n => "DRW " ++ register x ++ ", " ++ register y ++ ", " ++ toString n.val
  | .skipPressed x => "SKP " ++ register x
  | .skipNotPressed x => "SKNP " ++ register x
  | .awaitKey x => "LD " ++ register x ++ ", K"
  | .readDelay x => "LD " ++ register x ++ ", DT"
  | .setDelay x => "LD DT, " ++ register x
  | .setSound x => "LD ST, " ++ register x
  | .pointGlyph x => "LD F, " ++ register x
  | .storeDecimal x => "LD B, " ++ register x
  | .storeRegisters x => "LD [I], " ++ register x
  | .loadRegisters x => "LD " ++ register x ++ ", [I]"
  | .unknown word => "DW " ++ hexLiteral 4 word.toNat

end Instruction

end ChipEight
