import ChipEight.Debugger
import ChipEight.Display
import ChipEight.Instruction
import ChipEight.Keypad
import ChipEight.Screen.Canvas

/-!
# The screen of the console

Six boxes: the display, the registers, the keypad and the pending calls in the upper part, then the
output of commands, which takes all the height that is left, and the line being typed. The boxes of
the upper part have the height of the display; the keypad and the calls take all the width that is
left.

On a terminal too small for this nothing is shown but its least size.
-/

namespace ChipEight

/-- What the screen shows. -/
structure View where
  debugger : Debugger
  /-- The output of the last command. -/
  output : String
  /-- The line being typed. -/
  input : String

namespace View

/-! ## Sizes -/

/-- Rows of the upper part: the display and its border. -/
def upperHeight : Nat := displayHeight / 2 + 2

def displayBoxWidth : Nat := displayWidth + 2

/-- The least columns of the boxes beside the display. -/
def sideWidth : Nat := 22

def keypadHeight : Nat := 4 + 2

def lineHeight : Nat := 3

def minWidth : Nat := displayBoxWidth + 2 * sideWidth

def minHeight : Nat := upperHeight + 2 * lineHeight

def displayBox : Box := ⟨0, 0, displayBoxWidth, upperHeight⟩

def registerBox : Box := ⟨displayBoxWidth, 0, sideWidth, upperHeight⟩

/-- Where the boxes right of the registers begin. -/
def rightColumn : Nat := displayBoxWidth + sideWidth

def keypadBox (width : Nat) : Box := ⟨rightColumn, 0, width - rightColumn, keypadHeight⟩

def callBox (width : Nat) : Box :=
  ⟨rightColumn, keypadHeight, width - rightColumn, upperHeight - keypadHeight⟩

def outputBox (width height : Nat) : Box :=
  ⟨0, upperHeight, width, height - upperHeight - lineHeight⟩

def lineBox (width height : Nat) : Box := ⟨0, height - lineHeight, width, lineHeight⟩

/-! ## Contents -/

def registerPair (m : Machine) (k : Fin 8) : List Char :=
  let shown (x : Nibble) : String := "V" ++ x.digit ++ " " ++ hex 2 (m.reg x).toNat
  (shown ⟨2 * k.val, by omega⟩ ++ "    " ++ shown ⟨2 * k.val + 1, by omega⟩).toList

def registerLines (m : Machine) : List (List Char) :=
  [("PC " ++ hex 4 m.pc.toNat ++ "  I " ++ hex 4 m.index.toNat).toList,
   ("DT " ++ hex 2 m.delay.toNat ++ "    ST " ++ hex 2 m.sound.toNat).toList,
   (m.current?.elim "--" Instruction.mnemonic).toList] ++
  (List.finRange 8).map (registerPair m)

/-- A key of the keypad with the character that presses it. -/
def keyCells (m : Machine) (cell : Char × Nibble) : List Cell :=
  let (ink, paper) := if m.isPressed cell.2 then (Color.black, Color.green) else (.plain, .plain)
  (" " ++ cell.2.digit ++ "/" ++ String.ofList [cell.1] ++ " ").toList.map fun c ↦ ⟨[c], ink, paper⟩

def keypadRows (m : Machine) : List (List Cell) :=
  Keypad.layout.map fun row ↦ row.flatMap (keyCells m)

/-- A pending call, with the number of calls outside it. -/
def callLine (outside : Nat) (address : UInt16) : List Char :=
  let number := toString outside
  ("#" ++ number ++ String.ofList (List.replicate (2 - number.length) ' ') ++ " call @ " ++
    hex 3 address.toNat).toList

/-- The lines of the pending calls, the innermost first. -/
def callLines (m : Machine) : List (List Char) :=
  if m.calls.isEmpty then ["(empty)".toList]
  else m.calls.mapIdx fun k address ↦ callLine (m.calls.length - 1 - k) address

/-- Cuts characters into lines. `line` holds the characters of the line being read, in order. -/
def cutLines (line : List Char) : List Char → List (List Char)
  | [] => [line]
  | c :: cs => if c = '\n' then line :: cutLines [] cs else cutLines (line ++ [c]) cs

def textLines (s : String) : List (List Char) := cutLines [] s.toList

/-! ## Painting -/

def paintDisplay (m : Machine) : Picture :=
  displayBox.frame " Display ".toList ++ displayBox.text .green m.display.lines

/-- The box of the registers, which also tells whether the machine beeps. -/
def paintRegisters (m : Machine) : Picture :=
  registerBox.frame " Registers ".toList ++
    (if m.beeps then [registerBox.rightTitle " BEEP ".toList .yellow] else []) ++
    registerBox.text .plain (registerLines m)

/-- The box of the keypad. Its rows are centred. -/
def paintKeypad (m : Machine) (width : Nat) : Picture :=
  let box := keypadBox width
  box.frame " Keypad ".toList ++ (keypadRows m).mapIdx fun k row ↦
    box.strip k (box.innerWidth / 2 - row.length / 2) row

def paintCalls (m : Machine) (width : Nat) : Picture :=
  (callBox width).frame s!" Stack {m.calls.length}/{stackDepth} ".toList ++
    (callBox width).text .plain (callLines m)

def paintOutput (output : String) (width height : Nat) : Picture :=
  (outputBox width height).frame " Output ".toList ++
    (outputBox width height).text .plain (textLines output)

/-- The box of the typed line, which also tells whether the machine runs. -/
def paintLine (running : Bool) (input : String) (width height : Nat) : Picture :=
  let box := lineBox width height
  let (mode, ink) :=
    if running then (" RUNNING (Esc pauses) ", Color.green) else (" PAUSED ", Color.yellow)
  box.frame " Command ".toList ++ [box.rightTitle mode.toList ink] ++
    box.text .plain (textLines ("> " ++ input))

/-- All boxes. -/
def paintBoxes (v : View) (width height : Nat) : Picture :=
  let m := v.debugger.machine
  paintDisplay m ++ paintRegisters m ++ paintKeypad m width ++ paintCalls m width ++
    paintOutput v.output width height ++ paintLine v.debugger.running v.input width height

/-- What is shown on a screen that is too small, all of it in red. -/
def paintTooSmall (width height : Nat) : Picture :=
  let background := Array.replicate width ⟨[' '], .red, .plain⟩
  (List.range height).map (fun y ↦ ⟨0, y, background⟩) ++
    [.ofText 0 0 width s!"Need at least {minWidth}x{minHeight}".toList .red .plain]

/-- The picture on a screen of some size. -/
def paint (v : View) (width height : Nat) : Picture :=
  if width < minWidth ∨ height < minHeight then paintTooSmall width height
  else paintBoxes v width height

/-- The rows of the screen. -/
def rows (v : View) (width height : Nat) : List (List Cell) :=
  let picture := v.paint width height
  (List.range height).map (picture.row width)

end View

end ChipEight
