import ChipEight.Proofs.Display.Sprites
import ChipEight.Proofs.Guarded.Operations
import Mathlib.Tactic.IntervalCases

/-!
# Guarded drawing

A sprite drawn the long way: row by row, in a row column by column, and for each set bit of the
sprite the pixel of the display is looked up, flipped and looked at again. Every place is wrapped
around before it is used as an index, so no index leaves the display.

What the loop over the columns has done so far is to flip one row by a mask. The columns are fewer
than the display is wide, so no pixel is met twice and a new column is disjoint from the mask.
-/

namespace ChipEight

namespace Guarded

/-- Flips a pixel of the display and tells whether it is lit then. -/
def flipPixel (d : Display) (row column : ℕ) : Except Trap (Display × Bool) :=
  if hr : row < 32 then
    if hc : column < 64 then
      let flipped := d.flip ⟨row, hr⟩ (BitVec.twoPow 64 (63 - column))
      .ok (flipped, flipped.pixel ⟨column, hc⟩ ⟨row, hr⟩)
    else .error (.indexOutside column 64)
  else .error (.indexOutside row 32)

/-- Draws one column of a row of a sprite, and notes whether that turned a pixel off. -/
def drawColumn (x row : ℕ) (b : UInt8) (drawn : Display × Bool) (column : ℕ) :
    Except Trap (Display × Bool) := do
  let bit ← shiftRight 0x80#8 column
  if b.toBitVec &&& bit ≠ 0 then
    let (display, lit) ← flipPixel drawn.1 row ((← add x column) % displayWidth)
    return (display, drawn.2 || !lit)
  else return drawn

def drawRow (x y : ℕ) (drawn : Display × Bool) (row : UInt8 × ℕ) :
    Except Trap (Display × Bool) := do
  let wrapped := (← add y row.2) % displayHeight
  (List.range 8).foldlM (drawColumn x wrapped row.1) drawn

def draw (d : Display) (x y : ℕ) (sprite : List UInt8) : Except Trap (Display × Bool) :=
  sprite.zipIdx.foldlM (drawRow x y) (d, false)

/-! ## Columns -/

def columnMask (x : ℕ) (b : UInt8) (column : ℕ) : BitVec 64 :=
  if b.toNat.testBit (7 - column) then BitVec.twoPow 64 (63 - (x + column) % 64) else 0#64

def firstColumns (x : ℕ) (b : UInt8) : ℕ → BitVec 64
  | 0 => 0#64
  | column + 1 => firstColumns x b column ||| columnMask x b column

variable {x : ℕ} {b : UInt8} {row : Fin 32}

theorem getMsbD_twoPow_sub (column px : Fin 64) :
    (BitVec.twoPow 64 (63 - column.val)).getMsbD px = decide (px = column) := by
  have hcolumn := column.isLt
  rw [Bool.eq_iff_iff, BitVec.getMsbD_twoPow, Bool.and_eq_true, decide_eq_true_iff,
    decide_eq_true_iff, decide_eq_true_iff, Fin.ext_iff]
  omega

theorem getMsbD_columnMask (column : ℕ) (px : Fin 64) :
    (columnMask x b column).getMsbD px = true ↔
      px.val = (x + column) % 64 ∧ b.toNat.testBit (7 - column) = true := by
  rw [columnMask]
  split
  · next hbit =>
    have hmask := getMsbD_twoPow_sub ⟨(x + column) % 64, Nat.mod_lt _ (by decide)⟩ px
    rw [hmask, decide_eq_true_iff, Fin.ext_iff, and_iff_left hbit]
  · next hbit => simp [hbit]

theorem getMsbD_firstColumns (columns : ℕ) (px : Fin 64) :
    (firstColumns x b columns).getMsbD px = true ↔
      ∃ c < columns, px.val = (x + c) % 64 ∧ b.toNat.testBit (7 - c) = true := by
  induction columns with
  | zero => simp [firstColumns]
  | succ columns ih =>
    rw [firstColumns, BitVec.getMsbD_or, Bool.or_eq_true, ih, getMsbD_columnMask]
    constructor
    · rintro (⟨c, hc, hbit⟩ | hbit)
      · exact ⟨c, by omega, hbit⟩
      · exact ⟨columns, by omega, hbit⟩
    · rintro ⟨c, hc, hbit⟩
      rcases Nat.lt_succ_iff_lt_or_eq.mp hc with hlt | rfl
      · exact .inl ⟨c, hlt, hbit⟩
      · exact .inr hbit

theorem firstColumns_eight (x : ℕ) (b : UInt8) : firstColumns x b 8 = Display.spriteRow x b := by
  refine BitVec.eq_of_getMsbD_eq fun k hk ↦ Bool.eq_iff_iff.mpr ?_
  exact (getMsbD_firstColumns 8 ⟨k, hk⟩).trans (Display.getMsbD_spriteRow x b ⟨k, hk⟩).symm

theorem firstColumns_and_columnMask {column : ℕ} (hc : column < 8) :
    firstColumns x b column &&& columnMask x b column = 0#64 := by
  refine BitVec.eq_of_getMsbD_eq fun k hk ↦ ?_
  have hbefore := getMsbD_firstColumns (x := x) (b := b) column ⟨k, hk⟩
  have hnow := getMsbD_columnMask (x := x) (b := b) column ⟨k, hk⟩
  rw [BitVec.getMsbD_and, BitVec.getMsbD_zero, Bool.and_eq_false_iff, ← Bool.not_eq_true,
    ← Bool.not_eq_true, ← not_and_or]
  rintro ⟨h, h'⟩
  obtain ⟨c, hlt, hcolumn, -⟩ := hbefore.mp h
  obtain ⟨hcolumn', -⟩ := hnow.mp h'
  omega

theorem flip_zero (d : Display) : d.flip row 0#64 = d :=
  Display.ext_pixel fun px py ↦ by simp [Display.pixel_flip]

theorem hits_zero (d : Display) (row : Fin 32) : d.hits row 0#64 = false := by
  simp [Display.hits]

/-- Flipping a row twice is flipping it once, if the masks are disjoint. -/
theorem flip_flip (d : Display) {m m' : BitVec 64} (h : m &&& m' = 0#64) :
    (d.flip row m).flip row m' = d.flip row (m ||| m') := by
  refine Display.ext_pixel fun px py ↦ ?_
  have hbit : (m.getMsbD px && m'.getMsbD px) = false := by
    rw [← BitVec.getMsbD_and, h, BitVec.getMsbD_zero]
  simp only [Display.pixel_flip, BitVec.getMsbD_or]
  split
  · cases hm : m.getMsbD px <;> cases hm' : m'.getMsbD px <;> simp_all
  · rfl

/-- A lit pixel is turned off by one of the two flips or by the other, if it is by the one they make
up. -/
theorem hits_flip (d : Display) {m m' : BitVec 64} (h : m &&& m' = 0#64) :
    (d.hits row m || (d.flip row m).hits row m') = d.hits row (m ||| m') := by
  have hbit : ∀ px : Fin 64, m'.getMsbD px = true → m.getMsbD px = false := by
    intro px hm'
    have hand : (m &&& m').getMsbD px = false := by rw [h, BitVec.getMsbD_zero]
    rw [BitVec.getMsbD_and, hm', Bool.and_true] at hand
    exact hand
  rw [Bool.eq_iff_iff, Bool.or_eq_true, Display.hits_iff, Display.hits_iff, Display.hits_iff]
  simp only [Display.pixel_flip, if_true, BitVec.getMsbD_or, Bool.or_eq_true]
  constructor
  · rintro (⟨px, hlit, hm⟩ | ⟨px, hlit, hm'⟩)
    · exact ⟨px, hlit, .inl hm⟩
    · rw [hbit px hm', Bool.xor_false] at hlit
      exact ⟨px, hlit, .inr hm'⟩
  · rintro ⟨px, hlit, hm | hm'⟩
    · exact .inl ⟨px, hlit, hm⟩
    · exact .inr ⟨px, by rw [hbit px hm', Bool.xor_false, hlit], hm'⟩

theorem hits_twoPow (d : Display) (row : Fin 32) (column : Fin 64) :
    d.hits row (BitVec.twoPow 64 (63 - column.val)) = d.pixel column row := by
  rw [Bool.eq_iff_iff, Display.hits_iff]
  simp only [getMsbD_twoPow_sub, decide_eq_true_iff]
  exact exists_eq_right

theorem flipPixel_eq (d : Display) (row : Fin 32) (column : Fin 64) :
    flipPixel d row.val column.val
      = .ok (d.flip row (BitVec.twoPow 64 (63 - column.val)), !d.pixel column row) := by
  have hlit := Display.pixel_flip d row (BitVec.twoPow 64 (63 - column.val)) column row
  rw [if_pos rfl, getMsbD_twoPow_sub, decide_eq_true rfl, Bool.xor_true] at hlit
  rw [flipPixel, dif_pos row.isLt, dif_pos column.isLt, ← hlit]

/-- The bit of a sprite byte that is looked at for a column. -/
theorem and_shiftRight_ne_zero_iff {column : ℕ} (hc : column < 8) :
    b.toBitVec &&& 0x80#8 >>> column ≠ 0 ↔ b.toNat.testBit (7 - column) = true := by
  have hmask : 0x80#8 >>> column = BitVec.twoPow 8 (7 - column) := by
    interval_cases column <;> rfl
  have hne : BitVec.twoPow 8 (7 - column) ≠ 0#8 := by
    interval_cases column <;> decide
  rw [hmask, BitVec.and_twoPow, ← UInt8.toNat_toBitVec, BitVec.testBit_toNat]
  split
  · next hbit => simp [hbit, hne]
  · next hbit => simp [hbit]

theorem drawColumn_eq (d : Display) (erased : Bool) {column : ℕ} (hc : column < 8)
    (hx : x < 256) :
    drawColumn x row.val b (d, erased) column
      = .ok (d.flip row (columnMask x b column),
        erased || d.hits row (columnMask x b column)) := by
  have hwrapped : (x + column) % 64 < 64 := Nat.mod_lt _ (by decide)
  rw [drawColumn, shiftRight_of_lt hc, ok_bind, columnMask]
  by_cases hbit : b.toNat.testBit (7 - column) = true
  · have hlit := hits_twoPow d row ⟨_, hwrapped⟩
    have hflip := flipPixel_eq d row ⟨_, hwrapped⟩
    rw [if_pos ((and_shiftRight_ne_zero_iff hc).mpr hbit), if_pos hbit, add_of_lt (by omega),
      ok_bind, displayWidth, hflip, ok_bind, hlit]
    simp only [Bool.not_not, pure_eq_ok]
  · rw [if_neg (hbit ∘ (and_shiftRight_ne_zero_iff hc).mp), if_neg hbit, flip_zero,
      hits_zero, Bool.or_false]
    rfl

theorem foldlM_drawColumn (d : Display) (erased : Bool) (hx : x < 256) {columns : ℕ}
    (hc : columns ≤ 8) :
    (List.range columns).foldlM (drawColumn x row.val b) (d, erased)
      = .ok (d.flip row (firstColumns x b columns),
        erased || d.hits row (firstColumns x b columns)) := by
  induction columns with
  | zero => simp [firstColumns, flip_zero, hits_zero]
  | succ columns ih =>
    have hdisjoint : firstColumns x b columns &&& columnMask x b columns = 0#64 :=
      firstColumns_and_columnMask (by omega)
    rw [List.range_succ, List.foldlM_append, ih (by omega), ok_bind, List.foldlM_cons,
      drawColumn_eq _ _ (by omega) hx, ok_bind, List.foldlM_nil, flip_flip d hdisjoint,
      Bool.or_assoc, hits_flip d hdisjoint, firstColumns]
    rfl

/-! ## Rows -/

theorem foldlM_drawRow (sprite : List UInt8) (d : Display) (erased : Bool) {y r : ℕ} (hx : x < 256)
    (hy : y + r + sprite.length < 0x10000) :
    (sprite.zipIdx r).foldlM (drawRow x y) (d, erased)
      = .ok ((d.draw x (y + r) sprite).1, erased || (d.draw x (y + r) sprite).2) := by
  induction sprite generalizing d erased r with
  | nil => simp [Display.draw]
  | cons b sprite ih =>
    rw [List.length_cons] at hy
    have hrow : (y + r) % displayHeight = (Fin.ofNat 32 (y + r)).val := rfl
    rw [List.zipIdx_cons, List.foldlM_cons, drawRow, add_of_lt (by omega), ok_bind, hrow,
      foldlM_drawColumn d erased hx (Nat.le_refl 8), ok_bind, firstColumns_eight, ih _ _ (by omega),
      Display.draw_cons, Bool.or_assoc, Nat.add_assoc]

theorem draw_eq (d : Display) (x y : UInt8) {sprite : List UInt8} (h : sprite.length < 0x1000) :
    draw d x.toNat y.toNat sprite = .ok (d.draw x.toNat y.toNat sprite) := by
  have hx := x.toNat_lt
  have hy := y.toNat_lt
  rw [draw, foldlM_drawRow sprite d false hx (by omega), Bool.false_or, Nat.add_zero]

end Guarded

end ChipEight
