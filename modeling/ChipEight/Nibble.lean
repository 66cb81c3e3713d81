/-!
# Nibbles and hexadecimal text

Register operands, key numbers and sprite heights are four bits wide. A nibble is a number below
sixteen, so looking up one of the sixteen registers or keys by a nibble can never miss.

Every dump, mnemonic and message of the machine writes numbers in upper-case hexadecimal with a
least number of digits. One function does all of it: `hex width n` pads with zeros up to `width`
and never cuts, so a number that needs more digits than asked for is still written in full.
-/

namespace ChipEight

/-! ## Hexadecimal text -/

def hexDigit (d : Nat) : Char :=
  if d < 10 then Char.ofNat (48 + d) else Char.ofNat (55 + d)

/-- The digits of `n` in base sixteen, most significant first; zero has one digit. -/
def hexDigits (n : Nat) : List Char :=
  if n < 16 then [hexDigit n] else hexDigits (n / 16) ++ [hexDigit (n % 16)]
termination_by n
decreasing_by omega

/-- `n` in upper-case hexadecimal with at least `width` digits. -/
def hex (width n : Nat) : String :=
  let digits := hexDigits n
  String.ofList (List.replicate (width - digits.length) '0' ++ digits)

/-- `n` as a literal: the mark `0x`, then at least `width` digits. -/
def hexLiteral (width n : Nat) : String := "0x" ++ hex width n

/-! ## Nibbles -/

/-- A four-bit number. -/
abbrev Nibble := Fin 16

namespace Nibble

/-- The nibble of a byte, when the byte is at most `0xF`. -/
def ofByte? (b : UInt8) : Option Nibble :=
  if h : b.toNat < 16 then some ⟨b.toNat, h⟩ else none

theorem lt (n : Nibble) : n.val < 16 := n.isLt

/-- The low four bits of a number. -/
def ofNat (n : Nat) : Nibble := ⟨n % 16, Nat.mod_lt _ (by decide)⟩

/-- The low four bits of a word. -/
def low (w : UInt16) : Nibble := ofNat w.toNat

def toByte (n : Nibble) : UInt8 := UInt8.ofNat n.val

/-- The nibble as one upper-case hexadecimal digit. -/
def digit (n : Nibble) : String := hex 1 n.val

/-- What is said of a byte that is no nibble. -/
def rangeText : String := "u4 value must be in range 0x0-0xF"

theorem toNat_toByte (n : Nibble) : n.toByte.toNat = n.val := by
  have hn := n.lt
  rw [toByte, UInt8.toNat_ofNat']
  omega

theorem ofByte?_toByte (n : Nibble) : ofByte? n.toByte = some n := by
  simp only [ofByte?, n.toNat_toByte, n.isLt, ↓reduceDIte]

end Nibble

end ChipEight
