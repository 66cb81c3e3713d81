import ChipEight.Proofs.Display.Packing
import ChipEight.Proofs.Instruction.Words
import ChipEight.Proofs.Machine.Transaction
import ChipEight.Proofs.Memory.Writing

/-!
# Sprites

A sprite is drawn row by row, and a row at a time: the byte becomes a mask that is turned around the
display until it begins at the column of the sprite, and the rows below follow around the bottom
edge. `Display.Covers` says without masks or turns which pixels a sprite has under its lit ones.

Both axes wrap around, so a pixel could be met more than once. A sprite is never that large: its
eight columns are fewer than sixty-four and its at most fifteen rows fewer than thirty-two. So a row
that is flipped is not met again, which is what the induction over the rows needs, both for the
pixels and for the flag.
-/

namespace ChipEight

namespace Display

/-! ## One row -/

variable {x y : ℕ} {px : Fin 64} {py : Fin 32}

/-- Before it is turned, the mask of a byte has its bits in the leftmost eight columns. -/
theorem getMsbD_mask (b : UInt8) {k : ℕ} (hk : k < 64) :
    (b.toBitVec ++ 0#56).getMsbD k = true ↔ k < 8 ∧ b.toNat.testBit (7 - k) = true := by
  rw [BitVec.getMsbD_append]
  split
  · next h => simp; omega
  · next h =>
    rw [BitVec.getMsbD_eq_getLsbD, ← BitVec.testBit_toNat]
    simp [Nat.lt_of_not_le h]

/-- A lit pixel of the mask is a set bit of the byte, that many columns to the right, around the
edge if need be. -/
theorem getMsbD_spriteRow (x : ℕ) (b : UInt8) (px : Fin 64) :
    (spriteRow x b).getMsbD px = true ↔
      ∃ c < 8, px.val = (x + c) % 64 ∧ b.toNat.testBit (7 - c) = true := by
  have hpx := px.isLt
  have hturn : (spriteRow x b).getMsbD px
      = (b.toBitVec ++ 0#56).getMsbD ((64 + px.val - x % 64) % 64) := by
    rw [spriteRow, BitVec.getMsbD_rotateRight, decide_eq_true hpx, Bool.true_and]
    split
    · rfl
    · congr 1
      omega
  rw [hturn, getMsbD_mask b (Nat.mod_lt _ (by decide))]
  constructor
  · rintro ⟨hk, hbit⟩
    exact ⟨_, hk, by omega, hbit⟩
  · rintro ⟨c, hc, hcolumn, hbit⟩
    have hk : (64 + px.val - x % 64) % 64 = c := by omega
    exact ⟨hk ▸ hc, hk ▸ hbit⟩

theorem pixel_flip (d : Display) (row : Fin 32) (mask : BitVec 64) (px : Fin 64) (py : Fin 32) :
    (d.flip row mask).pixel px py = if py = row then d.pixel px py ^^ mask.getMsbD px
      else d.pixel px py := by
  rw [flip, pixel, pixel, Fin.getElem_fin, Vector.getElem_set]
  by_cases h : py = row
  · subst h
    simp
  · have hval : row.val ≠ py.val := fun hc ↦ h (Fin.ext hc.symm)
    rw [if_neg hval, if_neg h]
    rfl

/-- Whether a row and a mask have a bit in common. -/
def hits (d : Display) (row : Fin 32) (mask : BitVec 64) : Bool := d.get row &&& mask != 0

/-- A row and a mask have a bit in common exactly if a lit pixel is under a bit of the mask. -/
theorem hits_iff (d : Display) (row : Fin 32) (mask : BitVec 64) :
    d.hits row mask = true ↔ ∃ px, d.pixel px row = true ∧ mask.getMsbD px = true := by
  rw [hits, bne_iff_ne]
  constructor
  · intro hne
    by_contra hnone
    refine hne (BitVec.eq_of_getMsbD_eq fun k hk ↦ ?_)
    have hbit : ¬((d.get row).getMsbD k = true ∧ mask.getMsbD k = true) :=
      fun hc ↦ hnone ⟨⟨k, hk⟩, hc⟩
    rw [BitVec.getMsbD_and]
    simpa using hbit
  · rintro ⟨px, hlit, hmask⟩ hzero
    have hbit : (d.get row &&& mask).getMsbD px = true := by
      rw [BitVec.getMsbD_and, hmask, Bool.and_true]
      exact hlit
    rw [hzero] at hbit
    simp at hbit

/-! ## Whole sprites -/

/-- Whether one of the lit pixels of a sprite at column `x` and row `y` falls on a pixel of the
display. Bit `7 - c` of byte `r` is the pixel `c` columns to the right and `r` rows down. -/
def Covers (x y : ℕ) (sprite : List UInt8) (px : Fin 64) (py : Fin 32) : Prop :=
  ∃ r b, sprite[r]? = some b ∧ py.val = (y + r) % 32 ∧
    ∃ c < 8, px.val = (x + c) % 64 ∧ b.toNat.testBit (7 - c) = true

theorem draw_cons (d : Display) (x y : ℕ) (b : UInt8) (sprite : List UInt8) :
    d.draw x y (b :: sprite)
      = (((d.flip (Fin.ofNat 32 y) (spriteRow x b)).draw x (y + 1) sprite).1,
        d.hits (Fin.ofNat 32 y) (spriteRow x b)
          || ((d.flip (Fin.ofNat 32 y) (spriteRow x b)).draw x (y + 1) sprite).2) := rfl

theorem not_covers_nil : ¬Covers x y [] px py := by
  rintro ⟨r, b, hbyte, -⟩
  cases hbyte

/-- A sprite covers what its first row covers and what the sprite of its other rows covers, one row
further down. -/
theorem covers_cons {b : UInt8} {sprite : List UInt8} :
    Covers x y (b :: sprite) px py ↔
      (py = Fin.ofNat 32 y ∧ (spriteRow x b).getMsbD px = true) ∨
        Covers x (y + 1) sprite px py := by
  rw [getMsbD_spriteRow, Fin.ext_iff, Fin.val_ofNat]
  constructor
  · rintro ⟨r, b', hbyte, hrow, hcolumn⟩
    cases r with
    | zero =>
      obtain rfl := Option.some.inj hbyte
      exact .inl ⟨hrow, hcolumn⟩
    | succ r => exact .inr ⟨r, b', hbyte, by omega, hcolumn⟩
  · rintro (⟨hrow, hcolumn⟩ | ⟨r, b', hbyte, hrow, hcolumn⟩)
    · exact ⟨0, b, rfl, hrow, hcolumn⟩
    · exact ⟨r + 1, b', hbyte, by omega, hcolumn⟩

theorem row_ne_of_covers {sprite : List UInt8} (hrows : sprite.length < 32)
    (h : Covers x (y + 1) sprite px py) : py ≠ Fin.ofNat 32 y := by
  obtain ⟨r, b, hbyte, hrow, -⟩ := h
  have hr : r < sprite.length := (List.getElem?_eq_some_iff.mp hbyte).1
  intro hc
  rw [Fin.ext_iff, Fin.val_ofNat] at hc
  omega

/-- A sprite flips the pixels it covers and no others. -/
theorem pixel_draw {sprite : List UInt8} (hrows : sprite.length ≤ 32) (d : Display) (x y : ℕ)
    (px : Fin 64) (py : Fin 32) :
    (d.draw x y sprite).1.pixel px py = !d.pixel px py ↔ Covers x y sprite px py := by
  induction sprite generalizing d y with
  | nil => simp [draw, not_covers_nil]
  | cons b sprite ih =>
    have hrest : sprite.length < 32 := hrows
    have hflip := pixel_flip d (Fin.ofNat 32 y) (spriteRow x b) px py
    have hdraw := ih (Nat.le_of_lt hrest) (d.flip (Fin.ofNat 32 y) (spriteRow x b)) (y + 1)
    rw [covers_cons, draw_cons]
    by_cases hrow : py = Fin.ofNat 32 y
    · -- the row that is flipped now is left alone from here on
      have hkept : ¬Covers x (y + 1) sprite px py := fun hc ↦ row_ne_of_covers hrest hc hrow
      rw [Bool.not_eq_not.mp fun hc ↦ hkept (hdraw.mp hc), hflip, if_pos hrow, or_iff_left hkept,
        and_iff_right hrow]
      cases d.pixel px py <;> cases (spriteRow x b).getMsbD px <;> decide
    · rw [if_neg hrow] at hflip
      rw [hflip] at hdraw
      simpa only [hrow, false_and, false_or] using hdraw

theorem erased_draw_iff {sprite : List UInt8} (hrows : sprite.length ≤ 32) (d : Display)
    (x y : ℕ) :
    (d.draw x y sprite).2 = true ↔ ∃ px py, d.pixel px py = true ∧ Covers x y sprite px py := by
  induction sprite generalizing d y with
  | nil => simp [draw, not_covers_nil]
  | cons b sprite ih =>
    have hrest : sprite.length < 32 := hrows
    rw [draw_cons, Bool.or_eq_true, hits_iff, ih (Nat.le_of_lt hrest)]
    constructor
    · rintro (⟨px, hlit, hmask⟩ | ⟨px, py, hlit, hcovers⟩)
      · exact ⟨px, _, hlit, covers_cons.mpr (.inl ⟨rfl, hmask⟩)⟩
      · rw [pixel_flip, if_neg (row_ne_of_covers hrest hcovers)] at hlit
        exact ⟨px, py, hlit, covers_cons.mpr (.inr hcovers)⟩
    · rintro ⟨px, py, hlit, hcovers⟩
      rcases covers_cons.mp hcovers with ⟨rfl, hmask⟩ | hbelow
      · exact .inl ⟨px, hlit, hmask⟩
      · refine .inr ⟨px, py, ?_, hbelow⟩
        rw [pixel_flip, if_neg (row_ne_of_covers hrest hbelow)]
        exact hlit

theorem erased_draw_iff_pixel {sprite : List UInt8} (hrows : sprite.length ≤ 32) (d : Display)
    (x y : ℕ) :
    (d.draw x y sprite).2 = true ↔
      ∃ px py, d.pixel px py = true ∧ (d.draw x y sprite).1.pixel px py = false := by
  rw [erased_draw_iff hrows]
  refine exists_congr fun px ↦ exists_congr fun py ↦ and_congr_right fun hlit ↦ ?_
  rw [← pixel_draw hrows, hlit, Bool.not_true]

end Display

/-! ## The instruction that draws -/

namespace Instruction

theorem decode_draw {word : UInt16} {x y n : Nibble}
    (h : word.toNat = 0xD000 + 0x100 * x.val + 0x10 * y.val + n.val) :
    decode word = .draw x y n :=
  decode_of_fits (fits_draw h)

end Instruction

namespace Machine

theorem covers_block (m : Machine) (x y : ℕ) (start count : ℕ) (px : Fin 64) (py : Fin 32) :
    Display.Covers x y (m.memory.block start count) px py ↔
      ∃ r < count, ∃ c < 8, py.val = (y + r) % 32 ∧ px.val = (x + c) % 64 ∧
        (m.memory.byte (start + r)).toNat.testBit (7 - c) = true := by
  constructor
  · rintro ⟨r, b, hbyte, hrow, c, hc, hcolumn, hbit⟩
    obtain ⟨hr, rfl⟩ := Memory.getElem?_block_eq_some_iff.mp hbyte
    exact ⟨r, hr, c, hc, hrow, hcolumn, hbit⟩
  · rintro ⟨r, hr, c, hc, hrow, hcolumn, hbit⟩
    exact ⟨r, _, Memory.getElem?_block_eq_some_iff.mpr ⟨hr, rfl⟩, hrow, c, hc, hcolumn, hbit⟩

/-- **Drawing is an exclusive or around both edges.** If the sprite lies in memory, `Dxyn` succeeds.
It flips exactly the pixels under the set bits of the sprite, with the values `Vx` and `Vy` have
before, even where one of them is the flag. The flag then tells whether a pixel that was lit is so
no more, and nothing else but the program counter has changed. The cycle that fetches the word
leaves just this machine, with the timers counted down. -/
theorem draw_flips_pixels (m : Machine) (x y n : Nibble)
    (h : m.index.toNat + n.val ≤ memorySize) :
    ∃ after, (Procedure.execute (.draw x y n)).run m = .ok .displayChanged after ∧
      (∀ px py, after.display.pixel px py = !m.display.pixel px py ↔
        ∃ r < n.val, ∃ c < 8, py.val = ((m.reg y).toNat + r) % 32 ∧
          px.val = ((m.reg x).toNat + c) % 64 ∧
          (m.memory.byte (m.index.toNat + r)).toNat.testBit (7 - c) = true) ∧
      after.reg flag = (if ∃ px py, m.display.pixel px py = true ∧
        after.display.pixel px py = false then 1 else 0) ∧
      (∀ k ≠ flag, after.reg k = m.reg k) ∧
      after = { m with display := after.display, v := after.v, pc := m.pc + 2 } ∧
      ∀ word, m.fetch = .ok word →
        word.toNat = 0xD000 + 0x100 * x.val + 0x10 * y.val + n.val →
        m.step = .ok .displayChanged after.tickTimers := by
  have hrefusal : m.refusal? (.draw x y n) = none := by rw [refusal?, blockFault?, if_pos h]
  have hrows : (m.memory.block m.index.toNat n.val).length ≤ 32 := by
    have := n.lt
    simp [Memory.block]
    omega
  refine ⟨(m.commit (.draw x y n)).1, ?_, fun px py ↦ ?_, ?_, fun k hk ↦ ?_, rfl, ?_⟩
  · rw [Procedure.run_execute, settle_of_none hrefusal]
    rfl
  · exact (Display.pixel_draw hrows m.display _ _ px py).trans (m.covers_block _ _ _ _ px py)
  · have hflag : (m.commit (.draw x y n)).1.reg flag
        = if (m.display.draw (m.reg x).toNat (m.reg y).toNat
            (m.memory.block m.index.toNat n.val)).2 = true then 1 else 0 :=
      Vector.getElem_set_self flag.lt
    rw [hflag]
    exact if_congr (Display.erased_draw_iff_pixel hrows m.display _ _) rfl rfl
  · exact m.advance.reg_setReg_of_ne _ hk
  · intro word hfetch hword
    rw [step_of_fetch_ok hfetch, Instruction.decode_draw hword, settle_of_none hrefusal]
    rfl

/-- A machine about to draw the two bytes of the instruction itself across the lower right corner,
where one pixel is lit. The row is in the flag register. -/
def atTheCorner : Machine :=
  { powerOn ⟨0, 0⟩ with
    memory := Memory.zero.write programStart [0xD0, 0xF2]
    display := Display.blank.flip (Fin.last 31) (Display.spriteRow 1 0x80)
    index := UInt16.ofNat programStart
    v := (Vector.replicate 16 62).set flag.val 31 flag.lt }

/-- The lit pixel lies around the right edge and is turned off, another one around the lower edge is
turned on. -/
theorem draw_flips_pixels_atTheCorner :
    atTheCorner.index.toNat + 2 ≤ memorySize ∧
      ∃ after : Machine, atTheCorner.step = .ok .displayChanged after.tickTimers ∧
        after.display.pixel 1 31 = false ∧ after.display.pixel 62 0 = true ∧
        after.reg flag = 1 := by
  have hblock : atTheCorner.index.toNat + (2 : Nibble).val ≤ memorySize := by decide
  obtain ⟨after, -, hpixel, hflag, -, -, hstep⟩ :=
    draw_flips_pixels atTheCorner (.ofNat 0) flag 2 hblock
  have hlit : atTheCorner.display.pixel 1 31 = true := by decide +kernel
  have hunlit : atTheCorner.display.pixel 62 0 = false := by decide +kernel
  have hfetch : atTheCorner.fetch = .ok 0xD0F2 := fetch_eq_ok_iff.mpr (by decide +kernel)
  have hoff : after.display.pixel 1 31 = false := by
    rw [(hpixel 1 31).mpr ⟨0, by decide, 3, by decide, by decide +kernel⟩, hlit, Bool.not_true]
  have hon : after.display.pixel 62 0 = true := by
    rw [(hpixel 62 0).mpr ⟨1, by decide, 0, by decide, by decide +kernel⟩, hunlit, Bool.not_false]
  exact ⟨hblock, after, hstep _ hfetch (by decide), hoff, hon,
    hflag.trans (if_pos ⟨1, 31, hlit, hoff⟩)⟩

end Machine

end ChipEight
