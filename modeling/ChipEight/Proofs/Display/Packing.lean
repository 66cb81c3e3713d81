import ChipEight.Display
import Mathlib.Data.List.Induction

/-!
# Packed rows

A row of the display is a number of sixty-four bits, and a picture is its pixels. There are two ways
between them that know nothing of each other: `packRow` takes the pixels from left to right and
moves what it has up for each new one, and `unpackRow` moves the number down until the pixel it is
asked for is the last bit. They count bits from opposite ends, and a number that is unpacked and
packed again is the same.

A display is determined by its pixels, and every row of it is what its pixels are packed to.
-/

namespace ChipEight

namespace Display

/-! ## Packing and unpacking -/

/-- Takes in one more pixel on the right. -/
def takeIn (mask : BitVec 64) (pixel : Bool) : BitVec 64 :=
  mask <<< 1 ||| (BitVec.ofBool pixel).setWidth 64

/-- The number that the pixels of a row are packed to, the leftmost one first. -/
def packRow (row : Fin 64 → Bool) : BitVec 64 := (List.ofFn row).foldl takeIn 0

/-- The pixel of a packed row at a column. -/
def unpackRow (mask : BitVec 64) (x : Fin 64) : Bool := mask >>> (63 - x.val) &&& 1#64 == 1#64

theorem getLsbD_takeIn_zero (mask : BitVec 64) (pixel : Bool) :
    (takeIn mask pixel).getLsbD 0 = pixel := by
  cases pixel <;> simp [takeIn]

theorem getLsbD_takeIn_succ (mask : BitVec 64) (pixel : Bool) {k : ℕ} (hk : k + 1 < 64) :
    (takeIn mask pixel).getLsbD (k + 1) = mask.getLsbD k := by
  have hget : mask.getLsbD k = mask[k] := BitVec.getLsbD_eq_getElem (by omega)
  cases pixel <;> simp [takeIn, hk, hget]

/-- Bits are counted from the pixel that was taken in last. -/
theorem getLsbD_foldl_takeIn (pixels : List Bool) {k : ℕ} (hk : k < 64) :
    (pixels.foldl takeIn 0).getLsbD k = (pixels.reverse[k]?).getD false := by
  induction pixels using List.reverseRecOn generalizing k with
  | nil => simp
  | append_singleton pixels pixel ih =>
    rw [List.foldl_append, List.foldl_cons, List.foldl_nil, List.reverse_append]
    cases k with
    | zero => exact getLsbD_takeIn_zero _ _
    | succ k =>
      rw [getLsbD_takeIn_succ _ _ hk, ih (by omega)]
      rfl

/-- The leftmost pixel ends up in the topmost bit, and the others follow in order. -/
theorem getMsbD_packRow (row : Fin 64 → Bool) (x : Fin 64) : (packRow row).getMsbD x = row x := by
  have hx := x.isLt
  have hlength : (List.ofFn row).length = 64 := List.length_ofFn
  rw [packRow, BitVec.getMsbD_eq_getLsbD, getLsbD_foldl_takeIn _ (by omega),
    List.getElem?_reverse (by omega), hlength, show 64 - 1 - (64 - 1 - x.val) = x.val by omega,
    List.getElem?_ofFn, dif_pos hx, Option.getD_some, decide_eq_true hx, Bool.true_and]

theorem unpackRow_eq (mask : BitVec 64) (x : Fin 64) : unpackRow mask x = mask.getMsbD x := by
  have hx := x.isLt
  rw [unpackRow, BitVec.and_one_eq_setWidth_ofBool_getLsbD, BitVec.getLsbD_ushiftRight,
    BitVec.getMsbD_eq_getLsbD, decide_eq_true hx, Bool.true_and, Nat.add_zero]
  cases mask.getLsbD (63 - x.val) <;> rfl

theorem packRow_unpackRow (mask : BitVec 64) : packRow (unpackRow mask) = mask := by
  refine BitVec.eq_of_getMsbD_eq fun x hx ↦ ?_
  exact (getMsbD_packRow _ ⟨x, hx⟩).trans (unpackRow_eq mask ⟨x, hx⟩)

/-! ## Pixels -/

variable (d : Display)

theorem unpackRow_get (x : Fin 64) (y : Fin 32) : unpackRow (d.get y) x = d.pixel x y :=
  unpackRow_eq _ x

theorem packRow_pixel (y : Fin 32) : packRow (fun x ↦ d.pixel x y) = d.get y := by
  have hpixels : (fun x ↦ d.pixel x y) = unpackRow (d.get y) := by
    funext x
    rw [unpackRow_get]
  rw [hpixels, packRow_unpackRow]

variable {d} in
theorem ext_pixel {e : Display} (h : ∀ x y, d.pixel x y = e.pixel x y) : d = e := by
  refine Vector.ext fun y hy ↦ ?_
  have hrow : d.get ⟨y, hy⟩ = e.get ⟨y, hy⟩ := by
    rw [← packRow_pixel, ← packRow_pixel]
    simp only [h]
  exact hrow

end Display

end ChipEight
