import ChipEight.Proofs.Debugger.History
import ChipEight.Proofs.Display.Characters
import ChipEight.Proofs.Files.Keeping
import ChipEight.Proofs.Keypad.Timeout
import ChipEight.Proofs.Screen.Painting
import ChipEight.Proofs.Screen.Texts

/-!
# The screen shows the whole machine

On a screen that is large enough, all that is told of a machine has its place, which depends on the
size of the screen only, and nothing of it is cut off. This rests on two facts: the boxes lie apart,
so none of them hides what is in another one, and what a box tells of a machine fits in it, because
all texts are narrow and no number has more digits than it is given room for.

Both are needed of the box of the calls, of which there may be more than it has lines. It tells of
the innermost ten.
-/

namespace ChipEight

/-! ## Reading a screen -/

def cellAt? (rows : List (List Cell)) (x y : ℕ) : Option Cell := rows[y]?.bind fun row ↦ row[x]?

/-- A text stands on a screen from a place on, one character to a cell. -/
def Stands (rows : List (List Cell)) (x y : ℕ) (ink paper : Color) (text : String) : Prop :=
  ∀ k c, text.toList[k]? = some c → cellAt? rows (x + k) y = some ⟨[c], ink, paper⟩

namespace Stands

variable {rows : List (List Cell)} {x y n : ℕ} {ink paper : Color} {s t : String}

theorem left (h : Stands rows x y ink paper (s ++ t)) : Stands rows x y ink paper s := by
  intro k c hc
  refine h k c ?_
  obtain ⟨hk, -⟩ := List.getElem?_eq_some_iff.mp hc
  rw [String.toList_append, List.getElem?_append_left hk, hc]

theorem right (h : Stands rows x y ink paper (s ++ t)) (hs : s.toList.length = n) :
    Stands rows (x + n) y ink paper t := by
  intro k c hc
  rw [Nat.add_assoc]
  refine h (n + k) c ?_
  rw [String.toList_append, List.getElem?_append_right (by omega), hs, Nat.add_sub_cancel_left, hc]

end Stands

/-- What a screen tells of a machine, and where. The keys begin at a column that is given, because
they stand in the middle of their box. -/
structure ShowsMachine (rows : List (List Cell)) (m : Machine) (keypadColumn : ℕ) : Prop where
  display (x : Fin 64) (l : Fin 16) : cellAt? rows (1 + x) (1 + l) =
    some ⟨[halfBlock (m.display.pixel x (Display.upperRow l))
      (m.display.pixel x (Display.lowerRow l))], .green, .plain⟩
  pc : Stands rows 67 1 .plain .plain ("PC " ++ hex 4 m.pc.toNat)
  index : Stands rows 76 1 .plain .plain ("I " ++ hex 4 m.index.toNat)
  delay : Stands rows 67 2 .plain .plain ("DT " ++ hex 2 m.delay.toNat)
  sound : Stands rows 76 2 .plain .plain ("ST " ++ hex 2 m.sound.toNat)
  instruction : Stands rows 67 3 .plain .plain (m.current?.elim "--" Instruction.mnemonic)
  /-- The registers stand in two columns. -/
  register (x : Nibble) : Stands rows (67 + 9 * (x.val % 2)) (4 + x.val / 2) .plain .plain
    ("V" ++ x.digit ++ " " ++ hex 2 (m.reg x).toNat)
  /-- The keys stand as they are laid out, and those that are pressed in colours of their own. -/
  key (key : Nibble) : ∃ (r c : ℕ) (typed : Char),
    (Keypad.layout[r]?.bind fun row ↦ row[c]?) = some (typed, key) ∧
      Stands rows (keypadColumn + 5 * c) (1 + r)
        (if m.isPressed key then .black else .plain) (if m.isPressed key then .green else .plain)
        (" " ++ key.digit ++ "/" ++ String.ofList [typed] ++ " ")
  /-- The innermost call comes first. Each has the number of calls outside it. -/
  call {k : ℕ} {address : UInt16} (hk : k < 10) (h : m.calls[k]? = some address) :
    Stands rows 89 (7 + k) .plain .plain ("#" ++ toString (m.calls.length - 1 - k)) ∧
      Stands rows 93 (7 + k) .plain .plain ("call @ " ++ hex 3 address.toNat)

theorem Keypad.exists_place (key : Nibble) : ∃ (r c : ℕ) (typed : Char),
    (Keypad.layout[r]?.bind fun row ↦ row[c]?) = some (typed, key) := by
  have hkeys : ∀ key : Nibble, ∃ r c : Fin 4,
      ((Keypad.layout[r.val]?.bind fun row ↦ row[c.val]?).map (·.2)) = some key := by
    decide
  obtain ⟨r, c, hkey⟩ := hkeys key
  obtain ⟨⟨typed, _⟩, hplace, rfl⟩ := Option.map_eq_some_iff.mp hkey
  exact ⟨r, c, typed, hplace⟩

namespace View

open Picture

variable {v : View} {m : Machine} {width height x y k : ℕ} {ink : Color} {c : Cell}

/-! ## The boxes -/

/-- The boxes with what is painted in them. -/
def parts (v : View) (width height : ℕ) : List (Box × Picture) :=
  let m := v.debugger.machine
  [(displayBox, paintDisplay m), (registerBox, paintRegisters m),
    (keypadBox width, paintKeypad m width), (callBox width, paintCalls m width),
    (outputBox width height, paintOutput v.output width height),
    (lineBox width height, paintLine v.debugger.running v.input width height)]

theorem paintBoxes_eq (v : View) (width height : ℕ) :
    v.paintBoxes width height = (v.parts width height).flatMap (·.2) := by
  simp [paintBoxes, parts]

/-! ### Sizes -/

theorem displayBox_eq : displayBox = ⟨0, 0, 66, 18⟩ := rfl

theorem registerBox_eq : registerBox = ⟨66, 0, 22, 18⟩ := rfl

theorem keypadBox_eq (width : ℕ) : keypadBox width = ⟨88, 0, width - 88, 6⟩ := rfl

theorem callBox_eq (width : ℕ) : callBox width = ⟨88, 6, width - 88, 12⟩ := rfl

theorem innerWidth_keypadBox (width : ℕ) : (keypadBox width).innerWidth = width - 90 :=
  Nat.sub_sub width 88 2

theorem innerWidth_callBox (width : ℕ) : (callBox width).innerWidth = width - 90 :=
  Nat.sub_sub width 88 2

theorem outputBox_eq (width height : ℕ) :
    outputBox width height = ⟨0, 18, width, height - 18 - 3⟩ :=
  rfl

theorem lineBox_eq (width height : ℕ) : lineBox width height = ⟨0, height - 3, width, 3⟩ := rfl

/-! ### Contents -/

theorem fills_register (m : Machine) (x : Nibble) :
    Fills 5 ("V" ++ x.digit ++ " " ++ hex 2 (m.reg x).toNat) :=
  (((show Fills 1 "V" by decide).append (fills_digit x)).append
    (show Fills 1 " " by decide)).append (fills_byte _)

theorem getElem?_registerLines (m : Machine) (k : Fin 8) :
    (registerLines m)[3 + k.val]? = some (registerPair m k) := by
  rw [registerLines, List.getElem?_append_right (Nat.le_add_right 3 k)]
  simp

theorem keyCells_eq (m : Machine) (cell : Char × Nibble) :
    keyCells m cell = (" " ++ cell.2.digit ++ "/" ++ String.ofList [cell.1] ++ " ").toList.map
      fun c ↦ ⟨[c], if m.isPressed cell.2 then .black else .plain,
        if m.isPressed cell.2 then .green else .plain⟩ := by
  rw [keyCells]
  by_cases hpressed : m.isPressed cell.2 = true
  · simp only [hpressed, if_true]
  · simp only [hpressed, if_false, Bool.false_eq_true]

theorem length_keyCells (m : Machine) (cell : Char × Nibble) : (keyCells m cell).length = 5 := by
  have hdigit : cell.2.digit.toList.length = 1 := (fills_digit cell.2).length_eq
  simp only [keyCells_eq, List.length_map, String.toList_append, List.length_append, hdigit,
    String.toList_ofList]
  rfl

theorem length_of_mem_keypadRows {row : List Cell} (h : row ∈ keypadRows m) : row.length = 20 := by
  obtain ⟨cells, hcells, rfl⟩ := List.mem_map.mp h
  have hfour : ∀ cells ∈ Keypad.layout, cells.length = 4 := by decide
  simp [List.length_flatMap, length_keyCells, hfour cells hcells]

theorem getElem?_flatMap {α β : Type} {f : α → List β} {l : List α} {n i j : ℕ} {a : α}
    (hlength : ∀ a, (f a).length = n) (ha : l[i]? = some a) (hj : j < n) :
    (l.flatMap f)[n * i + j]? = (f a)[j]? := by
  induction l generalizing i with
  | nil => cases ha
  | cons b l ih =>
    rw [List.flatMap_cons]
    cases i with
    | zero =>
      obtain rfl := Option.some.inj ha
      rw [Nat.mul_zero, Nat.zero_add, List.getElem?_append_left (by rw [hlength]; exact hj)]
    | succ i =>
      have hskip : n * (i + 1) + j = (f b).length + (n * i + j) := by
        rw [hlength]
        ring
      rw [hskip, List.getElem?_append_right (Nat.le_add_right _ _), Nat.add_sub_cancel_left, ih ha]

theorem getElem?_callLines {address : UInt16} (hcall : m.calls[k]? = some address) :
    (callLines m)[k]? = some (callLine (m.calls.length - 1 - k) address) := by
  have hcalls : m.calls.isEmpty = false := by
    cases hm : m.calls with
    | nil =>
      rw [hm] at hcall
      cases hcall
    | cons => rfl
  rw [callLines, hcalls, if_neg Bool.false_ne_true, List.getElem?_mapIdx, hcall, Option.map_some]

theorem fills_number {n : ℕ} (h : n < 16) :
    Fills 4 ("#" ++ toString n ++
      String.ofList (List.replicate (2 - (toString n).length) ' ') ++ " ") := by
  have hnumber := fitsIn_decimal h
  have hblanks : Fills (2 - (toString n).length)
      (String.ofList (List.replicate (2 - (toString n).length) ' ')) := by
    constructor
    · rw [String.toList_ofList]
      exact narrow_replicate _ (by decide)
    · rw [String.toList_ofList, List.length_replicate]
  have htext := (((show Fills 1 "#" by decide).append ⟨hnumber.narrow, rfl⟩).append
    hblanks).append (show Fills 1 " " by decide)
  refine ⟨htext.narrow, htext.length_eq.trans ?_⟩
  have hlength := hnumber.length_le
  rw [← String.length_toList]
  omega

/-! ### All that is painted stays in its box -/

theorem within_paintDisplay (m : Machine) : (paintDisplay m).Within displayBox :=
  within_append.mpr ⟨Box.within_frame (by decide) (by decide) _, Box.within_text (by decide) _ _⟩

theorem within_paintRegisters (m : Machine) : (paintRegisters m).Within registerBox := by
  refine within_append.mpr ⟨within_append.mpr ⟨?_, ?_⟩, Box.within_text (by decide) _ _⟩
  · exact Box.within_frame (by decide) (by decide) _
  · by_cases hbeeps : m.beeps = true
    · rw [if_pos hbeeps]
      exact within_cons.mpr ⟨Box.within_rightTitle (by decide) (by decide) _, nofun⟩
    · rw [if_neg hbeeps]
      exact nofun

theorem within_paintKeypad (hwidth : 110 ≤ width) (m : Machine) :
    (paintKeypad m width).Within (keypadBox width) := by
  rw [paintKeypad, keypadBox_eq]
  refine within_append.mpr ⟨Box.within_frame (by simp only; omega) (by simp) _, ?_⟩
  intro s hs
  obtain ⟨k, hk, rfl⟩ := List.mem_mapIdx.mp hs
  have hrow : k < 4 := hk
  exact Box.within_strip (by omega) (by simp only; omega) hrow _

theorem within_paintCalls (hwidth : 110 ≤ width) (m : Machine) :
    (paintCalls m width).Within (callBox width) := by
  rw [paintCalls, callBox_eq]
  have hbox : 2 ≤ width - 88 := by omega
  exact within_append.mpr ⟨Box.within_frame hbox (by simp) _, Box.within_text hbox _ _⟩

theorem within_paintOutput (hwidth : 110 ≤ width) (hheight : 24 ≤ height) (output : String) :
    (paintOutput output width height).Within (outputBox width height) := by
  rw [paintOutput, outputBox_eq]
  have hbox : 2 ≤ width := by omega
  have hrows : 2 ≤ height - 18 - 3 := by omega
  exact within_append.mpr ⟨Box.within_frame hbox hrows _, Box.within_text hbox _ _⟩

theorem within_paintLine (hwidth : 110 ≤ width) (running : Bool) (input : String) :
    (paintLine running input width height).Within (lineBox width height) := by
  rw [paintLine, lineBox_eq]
  have hbox : 2 ≤ width := by omega
  have hmode : ∀ mode : String, mode.toList.length < 110 → mode.toList.length < width :=
    fun mode hlength ↦ Nat.lt_of_lt_of_le hlength hwidth
  refine within_append.mpr ⟨within_append.mpr ⟨?_, within_cons.mpr ⟨?_, nofun⟩⟩, ?_⟩
  · exact Box.within_frame hbox (by simp) _
  · cases running with
    | true => exact Box.within_rightTitle (hmode _ (by decide)) (by simp) _
    | false => exact Box.within_rightTitle (hmode _ (by decide)) (by simp) _
  · exact Box.within_text hbox _ _

theorem precedes_parts (hheight : 24 ≤ height) (v : View) (width : ℕ) :
    (v.parts width height).Pairwise fun a b ↦ a.1.Precedes b.1 := by
  simp [parts, Box.Precedes, displayBox_eq, registerBox_eq, keypadBox_eq, callBox_eq, outputBox_eq,
    lineBox_eq]
  omega

section Large

variable (hwidth : 110 ≤ width) (hheight : 24 ≤ height)
include hwidth hheight

theorem within_parts (v : View) : ∀ part ∈ v.parts width height, part.2.Within part.1 := by
  simp only [parts, List.forall_mem_cons]
  exact ⟨within_paintDisplay _, within_paintRegisters _, within_paintKeypad hwidth _,
    within_paintCalls hwidth _, within_paintOutput hwidth hheight _, within_paintLine hwidth _ _,
    nofun⟩

theorem parts_onScreen (v : View) : ∀ part ∈ v.parts width height,
    part.1.x + part.1.width ≤ width ∧ part.1.y + part.1.height ≤ height := by
  simp [parts, displayBox_eq, registerBox_eq, keypadBox_eq, callBox_eq, outputBox_eq, lineBox_eq]
  omega

/-- At a place of a box a screen shows what the picture of the box shows. -/
theorem cellAt?_of_part {part : Box × Picture} (hpart : part ∈ v.parts width height)
    (hplace : part.1.Covers x y) (hsees : ∀ below, part.2.seenOver below x y = c) :
    cellAt? (v.rows width height) x y = some c := by
  obtain ⟨below, hbelow⟩ := Box.exists_seenOver_flatMap (within_parts hwidth hheight v)
    (precedes_parts hheight v width) hpart hplace Cell.blank
  obtain ⟨hright, hbottom⟩ := parts_onScreen hwidth hheight v part hpart
  obtain ⟨-, hx, -, hy⟩ := hplace
  have hsmall : ¬(width < minWidth ∨ height < minHeight) := by
    change ¬(width < 110 ∨ height < 24)
    omega
  have hpaint : v.paint width height = (v.parts width height).flatMap (·.2) := by
    rw [paint, if_neg hsmall, paintBoxes_eq]
  have hrow : (v.rows width height)[y]? = some ((v.paint width height).row width y) := by
    rw [rows, List.getElem?_map, List.getElem?_range (by omega), Option.map_some]
  rw [cellAt?, hrow, Option.bind_some, getElem?_row _ (by omega), cell_eq_seenOver, hpaint, hbelow,
    hsees]

theorem stands_line {b : Box} {q : Picture} {lines : List (List Char)} {line : String}
    (hpart : (b, q ++ b.text ink lines) ∈ v.parts width height) (hk : k < b.innerHeight)
    (hline : lines[k]? = some line.toList) (hfits : FitsIn b.innerWidth line) :
    Stands (v.rows width height) (b.x + 1) (b.y + 1 + k) ink .plain line := by
  intro j c hc
  obtain ⟨hj, -⟩ := List.getElem?_eq_some_iff.mp hc
  have hroom : j < b.innerWidth := Nat.lt_of_lt_of_le hj hfits.length_le
  refine cellAt?_of_part hwidth hheight hpart ?_ fun below ↦ ?_
  · rw [Box.innerWidth] at hroom
    rw [Box.innerHeight] at hk
    change b.x ≤ _ ∧ _ < b.x + b.width ∧ b.y ≤ _ ∧ _ < b.y + b.height
    omega
  · rw [seenOver_append]
    exact Box.seenOver_text hk hline hfits.narrow hroom hc _

/-! ### The display -/

theorem cellAt?_display (x : Fin 64) (l : Fin 16) :
    cellAt? (v.rows width height) (1 + x) (1 + l) =
      some ⟨[halfBlock (v.debugger.machine.display.pixel x (Display.upperRow l))
        (v.debugger.machine.display.pixel x (Display.lowerRow l))], .green, .plain⟩ := by
  have hpart : (displayBox, paintDisplay v.debugger.machine) ∈ v.parts width height := .head _
  have hline : v.debugger.machine.display.lines[l.val]? =
      some (String.ofList (v.debugger.machine.display.line l)).toList := by
    rw [String.toList_ofList, Display.getElem?_lines]
  refine stands_line hwidth hheight hpart l.isLt hline (Display.fitsIn_line _ l) x.val _ ?_
  rw [String.toList_ofList, Display.getElem?_line]

/-! ### The registers -/

theorem stands_registerLine {line : String}
    (hline : (registerLines v.debugger.machine)[k]? = some line.toList) (hfits : FitsIn 20 line) :
    Stands (v.rows width height) 67 (1 + k) .plain .plain line := by
  have hpart : (registerBox, paintRegisters v.debugger.machine) ∈ v.parts width height :=
    .tail _ (.head _)
  have hk : k < 11 := (List.getElem?_eq_some_iff.mp hline).1
  exact stands_line hwidth hheight hpart (Nat.lt_trans hk (by decide)) hline hfits

/-- Of a line with two parts the second one stands in the second column of the registers. -/
theorem stands_registerColumns {first gap second : String}
    (hline : (registerLines v.debugger.machine)[k]? = some (first ++ gap ++ second).toList)
    (hfirst : Fills 9 (first ++ gap)) (hsecond : FitsIn 11 second) :
    Stands (v.rows width height) 67 (1 + k) .plain .plain first ∧
      Stands (v.rows width height) 76 (1 + k) .plain .plain second := by
  have hstands := stands_registerLine hwidth hheight hline
    ((hfirst.fitsIn (Nat.le_refl 9)).append hsecond)
  exact ⟨hstands.left.left, hstands.right hfirst.length_eq⟩

theorem stands_addresses :
    Stands (v.rows width height) 67 1 .plain .plain
        ("PC " ++ hex 4 v.debugger.machine.pc.toNat) ∧
      Stands (v.rows width height) 76 1 .plain .plain
        ("I " ++ hex 4 v.debugger.machine.index.toNat) := by
  have hpc : Fills 7 ("PC " ++ hex 4 v.debugger.machine.pc.toNat) :=
    (show Fills 3 "PC " by decide).append (fills_word _)
  have hindex : Fills 6 ("I " ++ hex 4 v.debugger.machine.index.toNat) :=
    (show Fills 2 "I " by decide).append (fills_word _)
  refine stands_registerColumns hwidth hheight (k := 0) ?_
    (hpc.append (show Fills 2 "  " by decide)) (hindex.fitsIn (by decide))
  have hgap : "  I ".toList = "  ".toList ++ "I ".toList := by decide
  simp [registerLines, hgap]

theorem stands_timers :
    Stands (v.rows width height) 67 2 .plain .plain
        ("DT " ++ hex 2 v.debugger.machine.delay.toNat) ∧
      Stands (v.rows width height) 76 2 .plain .plain
        ("ST " ++ hex 2 v.debugger.machine.sound.toNat) := by
  have hdelay : Fills 5 ("DT " ++ hex 2 v.debugger.machine.delay.toNat) :=
    (show Fills 3 "DT " by decide).append (fills_byte _)
  have hsound : Fills 5 ("ST " ++ hex 2 v.debugger.machine.sound.toNat) :=
    (show Fills 3 "ST " by decide).append (fills_byte _)
  refine stands_registerColumns hwidth hheight (k := 1) ?_
    (hdelay.append (show Fills 4 "    " by decide)) (hsound.fitsIn (by decide))
  have hgap : "    ST ".toList = "    ".toList ++ "ST ".toList := by decide
  simp [registerLines, hgap]

theorem stands_instruction :
    Stands (v.rows width height) 67 3 .plain .plain
      (v.debugger.machine.current?.elim "--" Instruction.mnemonic) := by
  refine stands_registerLine hwidth hheight (k := 2) rfl ?_
  cases v.debugger.machine.current? with
  | none => decide
  | some i => exact fitsIn_mnemonic i

theorem stands_register (x : Nibble) :
    Stands (v.rows width height) (67 + 9 * (x.val % 2)) (4 + x.val / 2) .plain .plain
      ("V" ++ x.digit ++ " " ++ hex 2 (v.debugger.machine.reg x).toNat) := by
  obtain ⟨heven, hodd⟩ := stands_registerColumns hwidth hheight
    (getElem?_registerLines v.debugger.machine ⟨x.val / 2, by omega⟩)
    ((fills_register _ _).append (show Fills 4 "    " by decide))
    ((fills_register _ _).fitsIn (by decide))
  have hrow : 1 + (3 + x.val / 2) = 4 + x.val / 2 := by omega
  rcases Nat.mod_two_eq_zero_or_one x.val with hparity | hparity
  · have hx : (⟨2 * (x.val / 2), by omega⟩ : Nibble) = x := Fin.ext (by simp only; omega)
    simpa [hparity, hrow, hx] using heven
  · have hx : (⟨2 * (x.val / 2) + 1, by omega⟩ : Nibble) = x := Fin.ext (by simp only; omega)
    simpa [hparity, hrow, hx] using hodd

/-! ### The keys -/

theorem stands_key (key : Nibble) : ∃ (r c : ℕ) (typed : Char),
    (Keypad.layout[r]?.bind fun row ↦ row[c]?) = some (typed, key) ∧
      Stands (v.rows width height) (79 + (width - 90) / 2 + 5 * c) (1 + r)
        (if v.debugger.machine.isPressed key then .black else .plain)
        (if v.debugger.machine.isPressed key then .green else .plain)
        (" " ++ key.digit ++ "/" ++ String.ofList [typed] ++ " ") := by
  obtain ⟨r, c, typed, hplace⟩ := Keypad.exists_place key
  refine ⟨r, c, typed, hplace, fun j char hchar ↦ ?_⟩
  obtain ⟨cells, hcells, hcell⟩ := Option.bind_eq_some_iff.mp hplace
  have hrow : (keypadRows v.debugger.machine)[r]? =
      some (cells.flatMap (keyCells v.debugger.machine)) := by
    rw [keypadRows, List.getElem?_map, hcells, Option.map_some]
  have hr : r < 4 := (List.getElem?_eq_some_iff.mp hrow).1
  have hwide := length_of_mem_keypadRows (List.mem_of_getElem? hrow)
  have hkey : (keyCells v.debugger.machine (typed, key))[j]? =
      some ⟨[char], if v.debugger.machine.isPressed key then .black else .plain,
        if v.debugger.machine.isPressed key then .green else .plain⟩ := by
    rw [keyCells_eq, List.getElem?_map, hchar, Option.map_some]
  have hj : j < 5 := by
    rw [← length_keyCells v.debugger.machine (typed, key)]
    exact (List.getElem?_eq_some_iff.mp hkey).1
  have hat := (getElem?_flatMap (length_keyCells v.debugger.machine) hcell hj).trans hkey
  have hinside : 5 * c + j < 20 := by
    rw [← hwide]
    exact (List.getElem?_eq_some_iff.mp hat).1
  have hpart : (keypadBox width, paintKeypad v.debugger.machine width) ∈ v.parts width height :=
    .tail _ (.tail _ (.head _))
  refine cellAt?_of_part hwidth hheight hpart ?_ fun below ↦ ?_
  · change 88 ≤ _ ∧ _ < 88 + (width - 88) ∧ 0 ≤ _ ∧ _ < 0 + 6
    omega
  · have hx : 79 + (width - 90) / 2 + 5 * c + j = 88 + 1 +
        ((keypadBox width).innerWidth / 2 -
          (cells.flatMap (keyCells v.debugger.machine)).length / 2) + (5 * c + j) := by
      rw [hwide, innerWidth_keypadBox]
      omega
    rw [paintKeypad, seenOver_append, hx]
    refine Box.seenOver_strips (b := keypadBox width) (k := r) hrow ?_ hat _
    rw [hwide, innerWidth_keypadBox]
    omega

/-! ### The calls -/

theorem stands_call {address : UInt16} (hdepth : v.debugger.machine.calls.length ≤ stackDepth)
    (hk : k < 10) (hcall : v.debugger.machine.calls[k]? = some address) :
    Stands (v.rows width height) 89 (7 + k) .plain .plain
        ("#" ++ toString (v.debugger.machine.calls.length - 1 - k)) ∧
      Stands (v.rows width height) 93 (7 + k) .plain .plain
        ("call @ " ++ hex 3 address.toNat) := by
  have hpart : (callBox width, paintCalls v.debugger.machine width) ∈ v.parts width height :=
    .tail _ (.tail _ (.tail _ (.head _)))
  have hfew : v.debugger.machine.calls.length - 1 - k < 16 := by
    have hpending : 0 < v.debugger.machine.calls.length :=
      Nat.zero_lt_of_lt (List.getElem?_eq_some_iff.mp hcall).1
    change _ ≤ 16 at hdepth
    omega
  have haddress : FitsIn 11 ("call @ " ++ hex 3 address.toNat) :=
    (show FitsIn 7 "call @ " by decide).append (fitsIn_word (by decide) address)
  have hbox : FitsIn (callBox width).innerWidth _ :=
    (((fills_number hfew).fitsIn (Nat.le_refl 4)).append haddress).mono (by
      rw [innerWidth_callBox]
      omega)
  have hline := getElem?_callLines hcall
  have hstands := stands_line hwidth hheight hpart (k := k) hk (hline.trans ?_) hbox
  · exact ⟨hstands.left.left.left, hstands.right (fills_number hfew).length_eq⟩
  · have hgap : " call @ ".toList = " ".toList ++ "call @ ".toList := by decide
    simp [callLine, hgap]

theorem showsMachine_rows (hdepth : v.debugger.machine.calls.length ≤ stackDepth) :
    ShowsMachine (v.rows width height) v.debugger.machine (79 + (width - 90) / 2) where
  display x l := cellAt?_display hwidth hheight x l
  pc := (stands_addresses hwidth hheight).1
  index := (stands_addresses hwidth hheight).2
  delay := (stands_timers hwidth hheight).1
  sound := (stands_timers hwidth hheight).2
  instruction := stands_instruction hwidth hheight
  register x := stands_register hwidth hheight x
  key key := stands_key hwidth hheight key
  call hk hcall := stands_call hwidth hheight hdepth hk hcall

end Large

/-! ## Screens that are too small -/

/-- A screen with nothing on it but the least size of a screen, all in red. What does not fit in the
first row is cut off. -/
def sizeNotice (width height : ℕ) : List (List Cell) :=
  (List.range height).map fun y ↦ (List.range width).map fun x ↦
    ⟨[if y = 0 then "Need at least 110x24".toList.getD x ' ' else ' '], .red, .plain⟩

theorem cell_paintTooSmall (hx : x < width) (hy : y < height) :
    (paintTooSmall width height).cell x y =
      ⟨[if y = 0 then "Need at least 110x24".toList.getD x ' ' else ' '], .red, .plain⟩ := by
  have hbackground : seenOver ((List.range height).map fun y ↦
      ⟨0, y, Array.replicate width ⟨[' '], .red, .plain⟩⟩) Cell.blank x y =
        ⟨[' '], .red, .plain⟩ := by
    refine seenOver_of_mem (List.mem_map_of_mem (List.mem_range.mpr hy)) ?_ ?_ _
    · exact Strip.at?_eq_some_iff.mpr ⟨rfl, Nat.zero_le x, by simp [hx]⟩
    · intro t ht d hd
      obtain ⟨z, -, rfl⟩ := List.mem_map.mp ht
      obtain ⟨-, -, hcell⟩ := Strip.at?_eq_some_iff.mp hd
      simpa [hx, eq_comm] using hcell
  have hnotice : s!"Need at least {minWidth}x{minHeight}" = "Need at least 110x24" := by
    decide
  have hnarrow : Narrow "Need at least 110x24".toList := by decide
  rw [paintTooSmall, cell_eq_seenOver, seenOver_append, hbackground, hnotice,
    ofText_of_narrow _ _ _ _ _ hnarrow]
  generalize "Need at least 110x24".toList = notice
  by_cases hrow : y = 0
  · subst hrow
    rw [if_pos rfl]
    cases hc : notice[x]? with
    | none => simp [seenOver, Strip.at?, hx, hc]
    | some c => simp [seenOver, Strip.at?, hx, hc]
  · have hother : seenOver [⟨0, 0, ((notice.take width).map fun c ↦ ⟨[c], .red, .plain⟩).toArray⟩]
        ⟨[' '], .red, .plain⟩ x y = ⟨[' '], .red, .plain⟩ :=
      seenOver_of_untouched (List.forall_mem_singleton.mpr (Strip.at?_of_row_ne (Ne.symm hrow) x)) _
    rw [if_neg hrow, hother]

theorem rows_eq_sizeNotice (v : View) (h : width < 110 ∨ height < 24) :
    v.rows width height = sizeNotice width height := by
  have hpaint : v.paint width height = paintTooSmall width height := if_pos h
  rw [rows, sizeNotice, hpaint]
  refine List.map_congr_left fun y hy ↦ List.ext_getElem? fun x ↦ ?_
  by_cases hx : x < width
  · rw [getElem?_row _ hx, cell_paintTooSmall hx (List.mem_range.mp hy), List.getElem?_map,
      List.getElem?_range hx, Option.map_some]
  · have hnone : width ≤ x := Nat.le_of_not_lt hx
    rw [List.getElem?_eq_none (by rw [length_row]; exact hnone), List.getElem?_eq_none]
    rw [List.length_map, List.length_range]
    exact hnone

/-! ## The whole screen -/

variable {σ : Type} [MonadFiles (StateM σ)] {machine : Machine} {clock : Clock Float32}
  {program : List UInt8} {d : Debugger} {files files' : σ} {hs : List Happening}

/-- **The screen is complete at every size that is enough.** Take any debugger that was made for a
program, after anything has happened to it, any output and any line. On a screen with at least 110
columns and 24 rows the rows are as many and as long as they should be, and all that is to be told
of the machine stands in them in full: the display, the addresses, the timers, the instruction, the
registers, the keys with those marked that are pressed, and the innermost ten calls. The places are
the same whatever the machine, the output and the line. A smaller screen has nothing on it but the
least size. -/
theorem rows_complete (hmade : Debugger.ofProgram machine clock program = .ok d)
    (hhistory : Debugger.history hs (d, files) = some (v.debugger, files')) (width height : ℕ) :
    (110 ≤ width ∧ 24 ≤ height →
      (v.rows width height).length = height ∧ (∀ row ∈ v.rows width height, row.length = width) ∧
      ShowsMachine (v.rows width height) v.debugger.machine (79 + (width - 90) / 2)) ∧
    (width < 110 ∨ height < 24 → v.rows width height = sizeNotice width height) := by
  have hdepth := ((Debugger.madeFor_ofProgram hmade).history hhistory).depth_le
  refine ⟨fun ⟨hwidth, hheight⟩ ↦ ⟨?_, ?_, ?_⟩, v.rows_eq_sizeNotice⟩
  · rw [rows, List.length_map, List.length_range]
  · intro row hrow
    obtain ⟨y, -, rfl⟩ := List.mem_map.mp hrow
    exact length_row _ _ _
  · exact showsMachine_rows hwidth hheight hdepth

open Debugger in
/-- The least size is enough, and one column less is not. -/
theorem rows_complete_leastSize :
    ∃ (d : Debugger) (v : View),
      ofProgram (Machine.powerOn ⟨0, 0⟩) (Clock.ofRate Clock.defaultRate) [0x12, 0x00] = .ok d ∧
      history [.setKey 5 true] (d, FileTree.empty) = some (v.debugger, FileTree.empty) ∧
      v.debugger.machine.isPressed 5 = true ∧
      ShowsMachine (v.rows 110 24) v.debugger.machine 89 ∧
      v.rows 109 24 = sizeNotice 109 24 := by
  obtain ⟨d, hmade⟩ : ∃ d, ofProgram (Machine.powerOn ⟨0, 0⟩) (Clock.ofRate Clock.defaultRate)
      [0x12, 0x00] = .ok d :=
    ⟨_, ofProgram_eq_ok_iff.mpr ⟨by decide, rfl⟩⟩
  let v : View := ⟨{ d with machine := d.machine.setKey 5 true }, "Ok", "run"⟩
  have hhistory : history [.setKey 5 true] (d, FileTree.empty) =
      some (v.debugger, FileTree.empty) := rfl
  refine ⟨d, v, hmade, hhistory, ?_, ?_, ?_⟩
  · exact (Keypad.get_set d.machine.keypad 5 5 true).trans (if_pos rfl)
  · exact ((rows_complete hmade hhistory 110 24).1 ⟨by decide, by decide⟩).2.2
  · exact (rows_complete hmade hhistory 109 24).2 (.inl (by decide))

end View

end ChipEight
