/-!
# The display

Sixty-four columns by thirty-two rows, one bit per pixel. A row is a 64-bit vector whose most
significant bit is the leftmost pixel, so a sprite byte is a row mask, moving it right is a rotation
(the display wraps around), drawing is exclusive or, and a collision is a common bit.

`Display.pixel` is the view through which the display is meant to be read.
-/

namespace ChipEight

def displayWidth : Nat := 64

def displayHeight : Nat := 32

/-- The rows of the display from top to bottom. -/
abbrev Display := Vector (BitVec 64) 32

namespace Display

def blank : Display := Vector.replicate 32 0

/-- The pixel at a column and a row, if there is one. -/
def pixel? (d : Display) (x y : Nat) : Option Bool :=
  if x < displayWidth then d[y]?.map fun row ↦ row.getMsbD x else none

/-- The pixel at a column and a row of the display. -/
def pixel (d : Display) (x : Fin 64) (y : Fin 32) : Bool := d[y].getMsbD x.val

/-- The number of lit pixels. -/
def lit (d : Display) : Nat :=
  d.toList.foldl (fun n row ↦ n + ((List.range 64).filter fun x ↦ row.getMsbD x).length) 0

/-- The row mask of a sprite byte whose leftmost pixel falls on column `x`. -/
def spriteRow (x : Nat) (b : UInt8) : BitVec 64 := (b.toBitVec ++ 0#56).rotateRight x

/-- Row `y` of the display after the pixels of a mask have been flipped. -/
def flip (d : Display) (y : Fin 32) (mask : BitVec 64) : Display := d.set y.val (d[y] ^^^ mask)

/-- Flips the pixels of a sprite, wrapping around both edges. The second component tells whether a
lit pixel was turned off. -/
def draw (d : Display) (x y : Nat) : List UInt8 → Display × Bool
  | [] => (d, false)
  | b :: bs =>
    let row : Fin 32 := Fin.ofNat 32 y
    let mask := spriteRow x b
    let hit := d[row] &&& mask != 0
    let rest := draw (d.flip row mask) x (y + 1) bs
    (rest.1, hit || rest.2)

end Display

/-!
## The display in characters

Characters are about twice as high as wide, so a line of text shows two rows of the display, one in
the upper and one in the lower half of each character.
-/

/-- The character that shows two pixels, one above the other. -/
def halfBlock (upper lower : Bool) : Char :=
  match upper, lower with
  | true, true => '█'
  | true, false => '▀'
  | false, true => '▄'
  | false, false => ' '

/-- The pixels that a character shows, if it is one that shows pixels. -/
def halves? (c : Char) : Option (Bool × Bool) :=
  match c with
  | '█' => some (true, true)
  | '▀' => some (true, false)
  | '▄' => some (false, true)
  | ' ' => some (false, false)
  | _ => none

theorem halves?_halfBlock (upper lower : Bool) :
    halves? (halfBlock upper lower) = some (upper, lower) := by
  cases upper <;> cases lower <;> rfl

namespace Display

def upperRow (line : Fin 16) : Fin 32 := ⟨2 * line.val, by omega⟩

def lowerRow (line : Fin 16) : Fin 32 := ⟨2 * line.val + 1, by omega⟩

def line (d : Display) (l : Fin 16) : List Char :=
  (List.finRange 64).map fun x ↦ halfBlock (d.pixel x (upperRow l)) (d.pixel x (lowerRow l))

/-- The display in sixteen lines of characters. -/
def lines (d : Display) : List (List Char) := (List.finRange 16).map d.line

end Display

end ChipEight
