import ChipEight.Proofs.Display.Characters
import ChipEight.Proofs.Text.Narrow
import ChipEight.Screen.View
import Mathlib.Tactic.IntervalCases

/-!
# The texts of the screen

What the screen tells of a machine are texts of narrow characters, and none of them is longer than
its box is wide. The numbers in them have a fixed number of digits, so what follows a number begins
at the same place whatever the number is.
-/

namespace ChipEight

/-! ## Hexadecimal numbers -/

theorem length_hexDigits_le {n digits : ℕ} (hdigits : 0 < digits) (h : n < 16 ^ digits) :
    (hexDigits n).length ≤ digits := by
  fun_induction hexDigits n generalizing digits with
  | case1 n hsmall => exact hdigits
  | case2 n hlarge ih =>
    obtain ⟨rest, rfl⟩ : ∃ rest, digits = rest + 1 := Nat.exists_eq_add_of_le' hdigits
    rw [Nat.pow_succ] at h
    have hrest : 0 < rest := by
      refine Nat.pos_of_ne_zero ?_
      rintro rfl
      omega
    rw [List.length_append, List.length_singleton]
    exact Nat.succ_le_succ (ih hrest (Nat.div_lt_of_lt_mul (by omega)))

theorem length_hex (width n : ℕ) :
    (hex width n).toList.length = max width (hexDigits n).length := by
  rw [hex, String.toList_ofList, List.length_append, List.length_replicate]
  omega

theorem isNarrow_hexDigit {d : ℕ} (h : d < 16) : isNarrow (hexDigit d) = true := by
  interval_cases d <;> decide

theorem narrow_hexDigits (n : ℕ) : Narrow (hexDigits n) := by
  fun_induction hexDigits n with
  | case1 n hsmall => exact narrow_cons.mpr ⟨isNarrow_hexDigit hsmall, narrow_nil⟩
  | case2 n hlarge ih =>
    refine narrow_append.mpr ⟨ih, narrow_cons.mpr ⟨?_, narrow_nil⟩⟩
    exact isNarrow_hexDigit (Nat.mod_lt n (by decide))

theorem narrow_hex (width n : ℕ) : Narrow (hex width n).toList := by
  rw [hex, String.toList_ofList]
  exact narrow_append.mpr ⟨narrow_replicate _ (by decide), narrow_hexDigits n⟩

/-! ## Texts that fit -/

/-- A narrow text of at most so many characters. -/
structure FitsIn (room : ℕ) (s : String) : Prop where
  narrow : Narrow s.toList
  length_le : s.toList.length ≤ room

/-- A narrow text of exactly so many characters. -/
structure Fills (room : ℕ) (s : String) : Prop where
  narrow : Narrow s.toList
  length_eq : s.toList.length = room

instance (room : ℕ) (s : String) : Decidable (FitsIn room s) :=
  decidable_of_iff (Narrow s.toList ∧ s.toList.length ≤ room)
    ⟨fun h ↦ ⟨h.1, h.2⟩, fun h ↦ ⟨h.narrow, h.length_le⟩⟩

instance (room : ℕ) (s : String) : Decidable (Fills room s) :=
  decidable_of_iff (Narrow s.toList ∧ s.toList.length = room)
    ⟨fun h ↦ ⟨h.1, h.2⟩, fun h ↦ ⟨h.narrow, h.length_eq⟩⟩

section Appending

variable {room more : ℕ} {s t : String}

theorem narrow_append_toList (hs : Narrow s.toList) (ht : Narrow t.toList) :
    Narrow (s ++ t).toList := by
  rw [String.toList_append]
  exact narrow_append.mpr ⟨hs, ht⟩

theorem Fills.fitsIn (h : Fills room s) (hle : room ≤ more) : FitsIn more s :=
  ⟨h.narrow, h.length_eq.trans_le hle⟩

theorem Fills.append (hs : Fills room s) (ht : Fills more t) : Fills (room + more) (s ++ t) where
  narrow := narrow_append_toList hs.narrow ht.narrow
  length_eq := by rw [String.toList_append, List.length_append, hs.length_eq, ht.length_eq]

theorem FitsIn.mono (h : FitsIn room s) (hle : room ≤ more) : FitsIn more s :=
  ⟨h.narrow, Nat.le_trans h.length_le hle⟩

theorem FitsIn.append (hs : FitsIn room s) (ht : FitsIn more t) :
    FitsIn (room + more) (s ++ t) where
  narrow := narrow_append_toList hs.narrow ht.narrow
  length_le := by
    rw [String.toList_append, List.length_append]
    exact Nat.add_le_add hs.length_le ht.length_le

end Appending

/-- A number that needs no more digits than it is given has as many of them. -/
theorem fills_hex {width n : ℕ} (hwidth : 0 < width) (h : n < 16 ^ width) :
    Fills width (hex width n) where
  narrow := narrow_hex width n
  length_eq := by rw [length_hex, Nat.max_eq_left (length_hexDigits_le hwidth h)]

theorem fills_byte (b : UInt8) : Fills 2 (hex 2 b.toNat) := fills_hex (by decide) b.toNat_lt

theorem fills_word (w : UInt16) : Fills 4 (hex 4 w.toNat) := fills_hex (by decide) w.toNat_lt

theorem fills_digit (x : Nibble) : Fills 1 x.digit := fills_hex (by decide) x.lt

theorem fitsIn_word {width : ℕ} (h : width ≤ 4) (w : UInt16) : FitsIn 4 (hex width w.toNat) where
  narrow := narrow_hex width w.toNat
  length_le := by
    rw [length_hex]
    exact Nat.max_le.mpr ⟨h, length_hexDigits_le (by decide) w.toNat_lt⟩

theorem fitsIn_decimal {n : ℕ} (h : n < 16) : FitsIn 2 (toString n) := by
  interval_cases n <;> decide

/-! ## The display -/

theorem isNarrow_halfBlock (upper lower : Bool) : isNarrow (halfBlock upper lower) = true := by
  cases upper <;> cases lower <;> decide

theorem Display.fitsIn_line (d : Display) (l : Fin 16) : FitsIn 64 (.ofList (d.line l)) where
  narrow := by
    rw [String.toList_ofList]
    intro c hc
    obtain ⟨x, -, rfl⟩ := List.mem_map.mp hc
    exact isNarrow_halfBlock _ _
  length_le := by rw [String.toList_ofList, length_line]

/-! ## Mnemonics -/

section Mnemonics

variable {room more : ℕ} {name operand : String}

theorem fitsIn_register (x : Nibble) : FitsIn 2 ("V" ++ x.digit) :=
  (show FitsIn 1 "V" by decide).append ((fills_digit x).fitsIn (Nat.le_refl 1))

theorem fitsIn_hexLiteral {width : ℕ} (h : width ≤ 4) (w : UInt16) :
    FitsIn 6 (hexLiteral width w.toNat) :=
  (show FitsIn 2 "0x" by decide).append (fitsIn_word h w)

theorem fitsIn_byteLiteral (b : UInt8) : FitsIn 4 (hexLiteral 2 b.toNat) :=
  (show FitsIn 2 "0x" by decide).append ((fills_byte b).fitsIn (Nat.le_refl 2))

theorem fitsIn_operands (hname : FitsIn 5 name) (x : Nibble) (hoperand : FitsIn 4 operand) :
    FitsIn 20 (name ++ ("V" ++ x.digit) ++ ", " ++ operand) :=
  (((hname.append (fitsIn_register x)).append (show FitsIn 2 ", " by decide)).append
    hoperand).mono (by decide)

theorem fitsIn_load (x : Nibble) (hoperand : FitsIn 5 operand) :
    FitsIn 20 ("LD " ++ ("V" ++ x.digit) ++ operand) :=
  (((show FitsIn 3 "LD " by decide).append (fitsIn_register x)).append hoperand).mono
    (by decide)

theorem fitsIn_lastRegister (hname : FitsIn 8 name) (x : Nibble) :
    FitsIn 20 (name ++ ("V" ++ x.digit)) :=
  (hname.append (fitsIn_register x)).mono (by decide)

theorem fitsIn_lastWord (hname : FitsIn 8 name) {width : ℕ} (h : width ≤ 4) (w : UInt16) :
    FitsIn 20 (name ++ hexLiteral width w.toNat) :=
  (hname.append (fitsIn_hexLiteral h w)).mono (by decide)

theorem fitsIn_name (op : ArithOp) : FitsIn 5 (op.mnemonic ++ " ") := by
  cases op <;> decide

/-- Every mnemonic fits beside the display. -/
theorem fitsIn_mnemonic (i : Instruction) : FitsIn 20 i.mnemonic := by
  cases i with
  | clear => decide
  | ret => decide
  | jump nnn => exact fitsIn_lastWord (show FitsIn 8 "JP " by decide) (by decide) nnn
  | jumpOffset nnn =>
    exact fitsIn_lastWord (show FitsIn 8 "JP V0, " by decide) (by decide) nnn
  | call nnn => exact fitsIn_lastWord (show FitsIn 8 "CALL " by decide) (by decide) nnn
  | skipEqualByte x nn =>
    exact fitsIn_operands (show FitsIn 5 "SE " by decide) x (fitsIn_byteLiteral nn)
  | skipUnequalByte x nn =>
    exact fitsIn_operands (show FitsIn 5 "SNE " by decide) x (fitsIn_byteLiteral nn)
  | skipEqual x y =>
    exact fitsIn_operands (show FitsIn 5 "SE " by decide) x
      ((fitsIn_register y).mono (by decide))
  | skipUnequal x y =>
    exact fitsIn_operands (show FitsIn 5 "SNE " by decide) x
      ((fitsIn_register y).mono (by decide))
  | setByte x nn =>
    exact fitsIn_operands (show FitsIn 5 "LD " by decide) x (fitsIn_byteLiteral nn)
  | addByte x nn =>
    exact fitsIn_operands (show FitsIn 5 "ADD " by decide) x (fitsIn_byteLiteral nn)
  | setIndex nnn => exact fitsIn_lastWord (show FitsIn 8 "LD I, " by decide) (by decide) nnn
  | addIndex x => exact fitsIn_lastRegister (show FitsIn 8 "ADD I, " by decide) x
  | arith op x y =>
    exact fitsIn_operands (fitsIn_name op) x ((fitsIn_register y).mono (by decide))
  | random x nn =>
    exact fitsIn_operands (show FitsIn 5 "RND " by decide) x (fitsIn_byteLiteral nn)
  | draw x y n =>
    have hplaces := (((show FitsIn 4 "DRW " by decide).append (fitsIn_register x)).append
      (show FitsIn 2 ", " by decide)).append (fitsIn_register y)
    exact ((hplaces.append (show FitsIn 2 ", " by decide)).append
      (fitsIn_decimal n.lt)).mono (by decide)
  | skipPressed x => exact fitsIn_lastRegister (show FitsIn 8 "SKP " by decide) x
  | skipNotPressed x => exact fitsIn_lastRegister (show FitsIn 8 "SKNP " by decide) x
  | awaitKey x => exact fitsIn_load x (show FitsIn 5 ", K" by decide)
  | readDelay x => exact fitsIn_load x (show FitsIn 5 ", DT" by decide)
  | setDelay x => exact fitsIn_lastRegister (show FitsIn 8 "LD DT, " by decide) x
  | setSound x => exact fitsIn_lastRegister (show FitsIn 8 "LD ST, " by decide) x
  | pointGlyph x => exact fitsIn_lastRegister (show FitsIn 8 "LD F, " by decide) x
  | storeDecimal x => exact fitsIn_lastRegister (show FitsIn 8 "LD B, " by decide) x
  | storeRegisters x => exact fitsIn_lastRegister (show FitsIn 8 "LD [I], " by decide) x
  | loadRegisters x => exact fitsIn_load x (show FitsIn 5 ", [I]" by decide)
  | unknown word => exact fitsIn_lastWord (show FitsIn 8 "DW " by decide) (by decide) word

end Mnemonics

end ChipEight
