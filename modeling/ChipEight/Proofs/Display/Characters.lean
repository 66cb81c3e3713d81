import ChipEight.Display
import ChipEight.Proofs.Snapshot.Restoring
import Mathlib.Data.List.FinRange

/-!
# The screen in characters

A pixel is looked up in three ways. The machine is asked for it by column and row. A snapshot has
packed it into a row with all the others of the row, the leftmost first. And a line of characters is
made of two packed rows, of which each pixel is cut out with a mask of one bit. The three agree on
where a pixel is, so what is seen on the screen is what the machine has on its display.

Nothing is lost on the way: each character stands for two pixels, and `readLines` takes them from it
and packs them again. Hence displays that look the same are the same.
-/

namespace ChipEight

namespace Display

variable {d : Display} {upper lower : BitVec 64}

/-! ## Bits of packed rows -/

theorem getLsbD_eq_getMsbD (mask : BitVec 64) (x : Fin 64) :
    mask.getLsbD (63 - x.val) = mask.getMsbD x := by
  rw [BitVec.getMsbD_eq_getLsbD, decide_eq_true x.isLt, Bool.true_and]

theorem getLsbD_packRow (row : Fin 64 → Bool) (x : Fin 64) :
    (packRow row).getLsbD (63 - x.val) = row x := by
  rw [getLsbD_eq_getMsbD, getMsbD_packRow]

/-- The pixel of a packed row at a column, cut out with a mask of one bit. -/
def maskedPixel (mask : BitVec 64) (x : Fin 64) : Bool := mask &&& 1#64 <<< (63 - x.val) != 0

theorem maskedPixel_eq (mask : BitVec 64) (x : Fin 64) : maskedPixel mask x = mask.getMsbD x := by
  have hone : BitVec.twoPow 64 (63 - x.val) ≠ 0#64 := by
    intro hzero
    have hbit := congrArg (fun bits ↦ bits.getLsbD (63 - x.val)) hzero
    simp at hbit
    omega
  rw [maskedPixel, ← BitVec.twoPow_eq, BitVec.and_twoPow, getLsbD_eq_getMsbD]
  by_cases hlit : mask.getMsbD x = true
  · simp [hlit, hone]
  · simp [hlit]

/-! ## Lines made from packed rows -/

/-- The characters that show two packed rows, one above the other. -/
def maskedLine (upper lower : BitVec 64) : List Char :=
  (List.finRange 64).map fun x ↦ halfBlock (maskedPixel upper x) (maskedPixel lower x)

/-- The characters that show packed rows, which are taken two by two. -/
def maskedLines : List (BitVec 64) → List (List Char)
  | upper :: lower :: rest => maskedLine upper lower :: maskedLines rest
  | _ => []

theorem length_maskedLines (masks : List (BitVec 64)) :
    (maskedLines masks).length = masks.length / 2 := by
  fun_induction maskedLines masks with
  | case1 upper lower rest ih =>
    simp only [List.length_cons, ih]
    omega
  | case2 masks hshort =>
    match masks, hshort with
    | [], _ => rfl
    | [_], _ => simp
    | upper :: lower :: rest, hshort => exact (hshort upper lower rest rfl).elim

theorem getElem?_maskedLines {masks : List (BitVec 64)} {l : ℕ}
    (hupper : masks[2 * l]? = some upper) (hlower : masks[2 * l + 1]? = some lower) :
    (maskedLines masks)[l]? = some (maskedLine upper lower) := by
  fun_induction maskedLines masks generalizing l with
  | case1 first second rest ih =>
    cases l with
    | zero =>
      obtain rfl := Option.some.inj hupper
      obtain rfl := Option.some.inj hlower
      rfl
    | succ l => exact ih hupper hlower
  | case2 masks hshort =>
    match masks, hshort with
    | [], _ => cases hupper
    | [_], _ => cases hlower
    | first :: second :: rest, hshort => exact (hshort first second rest rfl).elim

theorem line_eq (d : Display) (l : Fin 16) :
    d.line l = maskedLine (d.get (upperRow l)) (d.get (lowerRow l)) := by
  simp only [line, maskedLine, maskedPixel_eq]
  rfl

theorem length_lines (d : Display) : d.lines.length = 16 := by
  rw [lines, List.length_map, List.length_finRange]

theorem getElem?_lines (d : Display) (l : Fin 16) : d.lines[l.val]? = some (d.line l) := by
  rw [lines, List.getElem?_map, List.getElem?_eq_getElem (by simp), List.getElem_finRange]
  rfl

theorem length_line (d : Display) (l : Fin 16) : (d.line l).length = 64 := by
  rw [line, List.length_map, List.length_finRange]

theorem getElem?_line (d : Display) (l : Fin 16) (x : Fin 64) :
    (d.line l)[x.val]? = some (halfBlock (d.pixel x (upperRow l)) (d.pixel x (lowerRow l))) := by
  rw [line, List.getElem?_map, List.getElem?_eq_getElem (by simp), List.getElem_finRange]
  rfl

theorem maskedLines_toList (d : Display) : maskedLines d.toList = d.lines := by
  refine List.ext_getElem? fun k ↦ ?_
  by_cases hk : k < 16
  · have hrow : ∀ y : Fin 32, d.toList[y.val]? = some (d.get y) := by
      intro y
      rw [Vector.getElem?_toList]
      exact Vector.getElem?_eq_getElem y.isLt
    rw [getElem?_lines d ⟨k, hk⟩, line_eq]
    exact getElem?_maskedLines (hrow (upperRow ⟨k, hk⟩)) (hrow (lowerRow ⟨k, hk⟩))
  · have hlength : (maskedLines d.toList).length = 16 := by
      rw [length_maskedLines, Vector.length_toList]
    rw [List.getElem?_eq_none (by omega), List.getElem?_eq_none (by rw [length_lines]; omega)]

/-! ## Reading lines -/

/-- The number that pixels are packed to. -/
def packed (pixels : List Bool) : BitVec 64 := pixels.foldl takeIn 0

/-- The packed rows that a line of characters shows, if each of its characters shows pixels. -/
def readLine (line : List Char) : Option (List (BitVec 64)) :=
  (line.mapM halves?).map fun halves ↦ [packed (halves.map (·.1)), packed (halves.map (·.2))]

/-- The packed rows that lines of characters show. -/
def readLines (lines : List (List Char)) : Option (List (BitVec 64)) :=
  (lines.mapM readLine).map List.flatten

theorem packed_ofFn (mask : BitVec 64) :
    packed ((List.finRange 64).map fun x : Fin 64 ↦ mask.getMsbD x) = mask := by
  have hpixels : (fun x : Fin 64 ↦ mask.getMsbD x) = unpackRow mask := by
    funext x
    exact (unpackRow_eq mask x).symm
  rw [hpixels, ← List.ofFn_eq_map]
  exact packRow_unpackRow mask

theorem mapM_halves? {α : Type} (upper lower : α → Bool) (xs : List α) :
    (xs.map fun x ↦ halfBlock (upper x) (lower x)).mapM halves?
      = some (xs.map fun x ↦ (upper x, lower x)) := by
  induction xs with
  | nil => rfl
  | cons x xs ih => simp [halves?_halfBlock, ih]

theorem readLine_maskedLine (upper lower : BitVec 64) :
    readLine (maskedLine upper lower) = some [upper, lower] := by
  simp only [readLine, maskedLine, maskedPixel_eq]
  rw [mapM_halves?, Option.map_some, List.map_map, List.map_map]
  congr 2
  · exact packed_ofFn upper
  · exact congrArg (fun mask ↦ [mask]) (packed_ofFn lower)

theorem readLines_maskedLines {masks : List (BitVec 64)} (h : masks.length % 2 = 0) :
    readLines (maskedLines masks) = some masks := by
  rw [readLines]
  fun_induction maskedLines masks with
  | case1 upper lower rest ih =>
    have hrest : rest.length % 2 = 0 := by
      simp only [List.length_cons] at h
      omega
    obtain ⟨rows, hrows, hflat⟩ := Option.map_eq_some_iff.mp (ih hrest)
    simp [readLine_maskedLine, hrows, hflat]
  | case2 masks hshort =>
    match masks, hshort with
    | [], _ => rfl
    | [_], _ => cases h
    | upper :: lower :: rest, hshort => exact (hshort upper lower rest rfl).elim

/-- What is read from the lines of a display are its rows. -/
theorem readLines_lines (d : Display) : readLines d.lines = some d.toList := by
  rw [← maskedLines_toList]
  refine readLines_maskedLines ?_
  rw [Vector.length_toList]

theorem lines_injective : Function.Injective lines := by
  intro d e h
  have hrows : some d.toList = some e.toList := by
    rw [← readLines_lines, ← readLines_lines, h]
  exact Vector.toList_inj.mp (Option.some.inj hrows)

/-- **The shown screen is the screen of the machine.** The row of a snapshot is what packing the
pixels of the machine makes of them, from left to right, and the pixel at column `x` is its bit
`63 - x`. The lines made from the rows of the snapshot are sixteen with sixty-four characters each,
and a character is the full, upper or lower block or the blank as the two pixels say that it stands
for. In turn, reading the characters gives the rows back, whatever the display, and displays with
the same lines are the same. -/
theorem shown_screen (m : Machine) :
    (∀ (x : Fin 64) (y : Fin 32), m.display.pixel? x y = some (m.display.pixel x y) ∧
      m.snapshot.display.get y = packRow (fun x ↦ m.display.pixel x y) ∧
      (m.snapshot.display.get y).getLsbD (63 - x.val) = m.display.pixel x y) ∧
    (∃ lines, maskedLines m.snapshot.display.toList = lines ∧ m.snapshot.display.lines = lines ∧
      lines.length = 16 ∧
      ∀ l : Fin 16, ∃ shown, lines[l.val]? = some shown ∧ shown.length = 64 ∧
        ∀ x : Fin 64, shown[x.val]?
          = some (halfBlock (m.display.pixel x (upperRow l)) (m.display.pixel x (lowerRow l)))) ∧
    (∀ d : Display, readLines d.lines = some d.toList) ∧
    Function.Injective lines := by
  refine ⟨fun x y ↦ ?_, ?_, readLines_lines, lines_injective⟩
  · have hrow := (Machine.agrees_snapshot m).rows y
    refine ⟨?_, hrow, ?_⟩
    · have hget : m.display[y.val]? = some (m.display.get y) := Vector.getElem?_eq_getElem y.isLt
      rw [pixel?, if_pos (show x.val < displayWidth from x.isLt), hget]
      rfl
    · rw [hrow, getLsbD_packRow]
  · refine ⟨_, maskedLines_toList _, rfl, length_lines _, fun l ↦ ?_⟩
    exact ⟨_, getElem?_lines _ l, length_line _ l, getElem?_line _ l⟩

end Display

end ChipEight
