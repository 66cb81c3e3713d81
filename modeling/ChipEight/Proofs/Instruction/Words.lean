import ChipEight.Instruction
import Mathlib.Data.Nat.Notation

/-!
# Instruction words

An instruction set is written down in patterns: `Fx33` are the words of family `F` with the low byte
`33`, whatever their second nibble `x` is, which names a register. This file takes words apart by
division and says for each instruction which words it has, in the notation of the patterns and
without the decoder. `Instruction.decode_eq_iff` says that the decoder agrees with the patterns.

Some patterns leave a nibble open. The return is `0?EE`, the comparisons of two registers are `5xy?`
and `9xy?`; all words that fit are decoded alike.
-/

namespace ChipEight

namespace Word

/-! ## Parts of a word -/

/-- The top nibble, which names the family. -/
def family (w : UInt16) : ℕ := w.toNat / 0x1000

/-- The second nibble, which names a register. -/
def x (w : UInt16) : Nibble := .ofNat (w.toNat / 0x100)

/-- The third nibble, which names another register. -/
def y (w : UInt16) : Nibble := .ofNat (w.toNat / 0x10)

def n (w : UInt16) : Nibble := .ofNat w.toNat

/-- The low byte as an operand. -/
def nn (w : UInt16) : UInt8 := .ofNat w.toNat

/-- The low byte as a number, which tells the instructions of some families apart. -/
def code (w : UInt16) : ℕ := w.toNat % 0x100

/-- The low twelve bits, which are an address. -/
def nnn (w : UInt16) : UInt16 := .ofNat (w.toNat % 0x1000)

variable (w : UInt16)

theorem family_lt : family w < 16 := by
  have := w.toNat_lt
  rw [family]
  omega

theorem toNat_nnn : (nnn w).toNat = w.toNat % 0x1000 := by
  rw [nnn, UInt16.toNat_ofNat']
  omega

theorem toNat_shiftRight_twelve : (w >>> 12).toNat = family w := by
  rw [UInt16.toNat_shiftRight]
  exact Nat.shiftRight_eq_div_pow w.toNat 12

theorem shiftRight_eq_iff {k : UInt16} : w >>> 12 = k ↔ family w = k.toNat := by
  rw [← UInt16.toNat_inj, toNat_shiftRight_twelve]

theorem val_low_family : (Nibble.low (w >>> 12)).val = family w := by
  rw [Nibble.low, toNat_shiftRight_twelve]
  exact Nat.mod_eq_of_lt (family_lt w)

theorem low_x : Nibble.low (w >>> 8) = x w := by
  simp [Nibble.low, x, Nat.shiftRight_eq_div_pow]

theorem low_y : Nibble.low (w >>> 4) = y w := by
  simp [Nibble.low, y, Nat.shiftRight_eq_div_pow]

theorem toUInt8_eq_nn : w.toUInt8 = nn w := rfl

theorem toNat_nn : (nn w).toNat = code w := rfl

theorem and_eq_nnn : w &&& 0x0FFF = nnn w := by
  refine UInt16.toNat_inj.mp ?_
  rw [toNat_nnn, UInt16.toNat_and]
  exact Nat.and_two_pow_sub_one_eq_mod w.toNat 12

/-! ## Words without an instruction -/

/-- The words that no pattern fits. -/
def Unused (w : UInt16) : Prop :=
  (family w = 0x0 ∧ code w ≠ 0xE0 ∧ code w ≠ 0xEE) ∨
    (family w = 0x8 ∧ ((0x8 ≤ (n w).val ∧ (n w).val ≤ 0xD) ∨ (n w).val = 0xF)) ∨
    (family w = 0xE ∧ code w ≠ 0x9E ∧ code w ≠ 0xA1) ∨
    (family w = 0xF ∧ code w ∉ [0x07, 0x0A, 0x15, 0x18, 0x1E, 0x29, 0x33, 0x55, 0x65])

instance : Decidable (Unused w) := inferInstanceAs (Decidable (_ ∨ _ ∨ _ ∨ _))

end Word

/-! ## The patterns -/

/-- The last nibble of the words of an operation of family `8`. -/
def ArithOp.code : ArithOp → ℕ
  | .set => 0x0
  | .or => 0x1
  | .and => 0x2
  | .xor => 0x3
  | .add => 0x4
  | .sub => 0x5
  | .shiftRight => 0x6
  | .subReverse => 0x7
  | .shiftLeft => 0xE

theorem ArithOp.ofNibble?_eq_some_iff {k : Nibble} {op : ArithOp} :
    ofNibble? k = some op ↔ k.val = op.code := by
  revert k
  cases op <;> decide

theorem ArithOp.ofNibble?_eq_none_iff {k : Nibble} :
    ofNibble? k = none ↔ (0x8 ≤ k.val ∧ k.val ≤ 0xD) ∨ k.val = 0xF := by
  revert k
  decide

namespace Instruction

open Word

/-- Whether a word fits the pattern of an instruction, with the operands of the instruction. -/
def Fits (w : UInt16) : Instruction → Prop
  | .clear => family w = 0x0 ∧ code w = 0xE0
  | .ret => family w = 0x0 ∧ code w = 0xEE
  | .jump a => family w = 0x1 ∧ a = nnn w
  | .call a => family w = 0x2 ∧ a = nnn w
  | .skipEqualByte r b => family w = 0x3 ∧ r = x w ∧ b = nn w
  | .skipUnequalByte r b => family w = 0x4 ∧ r = x w ∧ b = nn w
  | .skipEqual r s => family w = 0x5 ∧ r = x w ∧ s = y w
  | .setByte r b => family w = 0x6 ∧ r = x w ∧ b = nn w
  | .addByte r b => family w = 0x7 ∧ r = x w ∧ b = nn w
  | .arith op r s => family w = 0x8 ∧ (n w).val = op.code ∧ r = x w ∧ s = y w
  | .skipUnequal r s => family w = 0x9 ∧ r = x w ∧ s = y w
  | .setIndex a => family w = 0xA ∧ a = nnn w
  | .jumpOffset a => family w = 0xB ∧ a = nnn w
  | .random r b => family w = 0xC ∧ r = x w ∧ b = nn w
  | .draw r s k => family w = 0xD ∧ r = x w ∧ s = y w ∧ k = n w
  | .skipPressed r => family w = 0xE ∧ code w = 0x9E ∧ r = x w
  | .skipNotPressed r => family w = 0xE ∧ code w = 0xA1 ∧ r = x w
  | .readDelay r => family w = 0xF ∧ code w = 0x07 ∧ r = x w
  | .awaitKey r => family w = 0xF ∧ code w = 0x0A ∧ r = x w
  | .setDelay r => family w = 0xF ∧ code w = 0x15 ∧ r = x w
  | .setSound r => family w = 0xF ∧ code w = 0x18 ∧ r = x w
  | .addIndex r => family w = 0xF ∧ code w = 0x1E ∧ r = x w
  | .pointGlyph r => family w = 0xF ∧ code w = 0x29 ∧ r = x w
  | .storeDecimal r => family w = 0xF ∧ code w = 0x33 ∧ r = x w
  | .storeRegisters r => family w = 0xF ∧ code w = 0x55 ∧ r = x w
  | .loadRegisters r => family w = 0xF ∧ code w = 0x65 ∧ r = x w
  | .unknown word => word = w ∧ Unused w

theorem fits_draw {w : UInt16} {r s k : Nibble}
    (h : w.toNat = 0xD000 + 0x100 * r.val + 0x10 * s.val + k.val) : (draw r s k).Fits w := by
  have hr := r.lt
  have hs := s.lt
  have hk := k.lt
  refine ⟨?_, Fin.ext ?_, Fin.ext ?_, Fin.ext ?_⟩
  · rw [family, h]
    omega
  · simp only [x, Nibble.ofNat, h]
    omega
  · simp only [y, Nibble.ofNat, h]
    omega
  · simp only [n, Nibble.ofNat, h]
    omega

theorem decode_of_fits {w : UInt16} {i : Instruction} (h : i.Fits w) : decode w = i := by
  simp only [decode, val_low_family, low_x, low_y, toUInt8_eq_nn, toNat_nn, and_eq_nnn]
  cases i with
  | clear | ret  =>
    obtain ⟨hfamily, hcode⟩ := h
    simp only [hfamily, hcode]
  | jump | call | setIndex | jumpOffset =>
    obtain ⟨hfamily, rfl⟩ := h
    simp only [hfamily]
  | draw r s k =>
    obtain ⟨hfamily, rfl, rfl, rfl⟩ := h
    simp only [hfamily]
    rfl
  | arith op r s =>
    obtain ⟨hfamily, hop, rfl, rfl⟩ := h
    simp only [hfamily, ArithOp.ofNibble?_eq_some_iff (k := Nibble.low w) |>.mpr hop]
  | skipEqualByte | skipUnequalByte | skipEqual | skipUnequal | setByte | addByte | random =>
    obtain ⟨hfamily, rfl, rfl⟩ := h
    simp only [hfamily]
  | unknown word =>
    obtain ⟨rfl, ⟨hfamily, hcode⟩ | ⟨hfamily, hop⟩ | ⟨hfamily, hcode⟩ | ⟨hfamily, hcode⟩⟩ := h
    -- family `8` is told apart by its last nibble, the other three by the low byte
    case inr.inl =>
      simp only [hfamily, ArithOp.ofNibble?_eq_none_iff (k := Nibble.low word) |>.mpr hop]
    all_goals
      simp only [hfamily]
      split <;> simp_all
  -- the other instructions have a register and a code
  | _ =>
    obtain ⟨hfamily, hcode, rfl⟩ := h
    simp only [hfamily, hcode]

/-- Every word fits the pattern of the instruction it is decoded as. -/
theorem fits_decode (w : UInt16) : (decode w).Fits w := by
  have hfamily := family_lt w
  simp only [decode, val_low_family, low_x, low_y, toUInt8_eq_nn, toNat_nn, and_eq_nnn]
  split
  case h_1 h =>
    split
    case h_3 hE0 hEE => exact ⟨rfl, .inl ⟨h, hE0, hEE⟩⟩
    all_goals exact ⟨h, ‹_›⟩
  case h_9 h =>
    split
    case h_1 op hop => exact ⟨h, ArithOp.ofNibble?_eq_some_iff.mp hop, rfl, rfl⟩
    case h_2 hop => exact ⟨rfl, .inr (.inl ⟨h, ArithOp.ofNibble?_eq_none_iff.mp hop⟩)⟩
  case h_15 h =>
    split
    case h_3 h9E hA1 => exact ⟨rfl, .inr (.inr (.inl ⟨h, h9E, hA1⟩))⟩
    all_goals exact ⟨h, ‹_›, rfl⟩
  case h_16 h0 h1 h2 h3 h4 h5 h6 h7 h8 h9 hA hB hC hD hE =>
    have h : family w = 0xF := by grind
    split
    case h_10 => exact ⟨rfl, .inr (.inr (.inr ⟨h, by simp_all⟩))⟩
    all_goals exact ⟨h, ‹_›, rfl⟩
  case h_14 h => exact ⟨h, rfl, rfl, rfl⟩
  all_goals first
    | exact ⟨‹_›, rfl, rfl⟩
    | exact ⟨‹_›, rfl⟩

/-- **The decoder agrees with the patterns.** -/
theorem decode_eq_iff {w : UInt16} {i : Instruction} : decode w = i ↔ i.Fits w := by
  constructor
  · rintro rfl
    exact fits_decode w
  · exact decode_of_fits

theorem Fits.unique {w : UInt16} {i j : Instruction} (hi : i.Fits w) (hj : j.Fits w) : i = j :=
  (decode_of_fits hi).symm.trans (decode_of_fits hj)

end Instruction

end ChipEight
