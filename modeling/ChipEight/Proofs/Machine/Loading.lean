import ChipEight.Machine
import ChipEight.Snapshot
import Mathlib.Data.List.TakeDrop

/-!
# Loading a program

A program that is loaded finds nothing of what was in the machine before. The bytes written to
memory replace those that were there and move no others (`Memory.toList_write`), which says what is
in memory after power-on and after a program was loaded; everything else is as after power-on. Only
the random source stays where it is, so the machines that come of loading a program differ in
nothing else (`Machine.load_eq`).
-/

namespace ChipEight

namespace Memory

variable {mem : Memory} {start : ℕ}

theorem toList_write {bytes : List UInt8} (h : start + bytes.length ≤ memorySize) :
    (mem.write start bytes).toList
      = mem.toList.take start ++ bytes ++ mem.toList.drop (start + bytes.length) := by
  induction bytes generalizing mem start with
  | nil => simp [write]
  | cons b bytes ih =>
    rw [List.length_cons] at h ⊢
    have hstart : start < mem.toList.length := by
      rw [Vector.length_toList]
      omega
    have hset : (mem.setIfInBounds start b).toList
        = mem.toList.take start ++ [b] ++ mem.toList.drop (start + 1) := by
      rw [Vector.toList_setIfInBounds, List.set_eq_take_append_cons_drop, if_pos hstart,
        List.append_cons]
    have hlength : (mem.toList.take start ++ [b]).length = start + 1 := by
      rw [List.length_append, List.length_take_of_le (Nat.le_of_lt hstart), List.length_singleton]
    have hbehind : (mem.toList.take start ++ [b] ++ mem.toList.drop (start + 1)).drop
        (start + 1 + bytes.length) = mem.toList.drop (start + (bytes.length + 1)) := by
      rw [List.drop_append, List.drop_of_length_le (by omega), List.nil_append, hlength,
        List.drop_drop]
      congr 1
      omega
    rw [write, ih (by omega), hset, List.take_left' hlength, hbehind, ← List.append_cons]

theorem length_font : font.length = 80 := rfl

theorem toList_powerOn : powerOn.toList = font ++ List.replicate 4016 0 := by
  have hfits : 0 + font.length ≤ memorySize := by decide
  rw [powerOn, toList_write hfits, zero, Vector.toList_replicate, List.take_zero, List.nil_append,
    List.drop_replicate, length_font, memorySize]

/-- The font is at the bottom, the program where programs are loaded, and zero everywhere else. -/
theorem toList_write_powerOn {program : List UInt8} (h : program.length ≤ 3584) :
    (powerOn.write programStart program).toList
      = font ++ List.replicate 432 0 ++ program ++ List.replicate (3584 - program.length) 0 := by
  have hfits : programStart + program.length ≤ memorySize := by
    rw [programStart, memorySize]
    omega
  have hbefore : powerOn.toList.take programStart = font ++ List.replicate 432 0 := by
    rw [toList_powerOn, List.take_append, List.take_of_length_le (by decide), List.take_replicate,
      length_font, programStart]
    rfl
  have hbehind : powerOn.toList.drop (programStart + program.length)
      = List.replicate (3584 - program.length) 0 := by
    have hfont : font.length ≤ programStart + program.length := by
      rw [length_font, programStart]
      omega
    have hcount : 4016 - (programStart + program.length - font.length) = 3584 - program.length := by
      rw [length_font, programStart]
      omega
    rw [toList_powerOn, List.drop_append, List.drop_of_length_le hfont, List.nil_append,
      List.drop_replicate, hcount]
  rw [toList_write hfits, hbefore, hbehind]

end Memory

theorem Display.pixel_blank (x : Fin 64) (y : Fin 32) : Display.blank.pixel x y = false := by
  rw [Display.pixel, Display.blank]
  simp

namespace Machine

variable {m : Machine} {program : List UInt8}

/-- A machine right after a program was loaded into it. -/
structure AtStart (program : List UInt8) (m : Machine) : Prop where
  /-- The font, the program and nothing else. -/
  memory : m.memory.toList
    = Memory.font ++ List.replicate 432 0 ++ program ++ List.replicate (3584 - program.length) 0
  pc : m.pc = 0x200
  index : m.index = 0
  registers : ∀ x, m.reg x = 0
  calls : m.calls = []
  delay : m.delay = 0
  sound : m.sound = 0
  pixels : ∀ x y, m.display.pixel x y = false
  keys : ∀ key, m.isPressed key = false

theorem load_of_le (m : Machine) (h : program.length ≤ 3584) :
    m.load program
      = ({ powerOn m.random with memory := Memory.powerOn.write programStart program }, .ok ()) :=
  if_pos h

theorem load_of_lt (m : Machine) (h : 3584 < program.length) :
    m.load program = (powerOn m.random, .error (.programTooLarge program.length)) :=
  if_neg (Nat.not_le.mpr h)

/-- A program that is loaded or refused leaves nothing but memory that is not as after power-on. -/
theorem exists_load (m : Machine) (program : List UInt8) :
    ∃ memory, (m.load program).1 = { powerOn m.random with memory } := by
  rcases Nat.lt_or_ge 3584 program.length with h | h
  · rw [load_of_lt m h]
    exact ⟨Memory.powerOn, by rw [powerOn]⟩
  · rw [load_of_le m h]
    exact ⟨Memory.powerOn.write programStart program, rfl⟩

theorem calls_load (m : Machine) (program : List UInt8) : (m.load program).1.calls = [] := by
  obtain ⟨memory, hload⟩ := m.exists_load program
  rw [hload, powerOn]

theorem load_eq (m n : Machine) (program : List UInt8) :
    n.load program = ({ (m.load program).1 with random := n.random }, (m.load program).2) := by
  rcases Nat.lt_or_ge 3584 program.length with h | h
  · rw [load_of_lt m h, load_of_lt n h, powerOn, powerOn]
  · rw [load_of_le m h, load_of_le n h, powerOn, powerOn]

theorem snapshot_load (m n : Machine) (program : List UInt8) :
    (n.load program).1.snapshot = (m.load program).1.snapshot := by
  rw [m.load_eq n]
  rfl

theorem snapshot_load_of_lt (m : Machine) (h : 3584 < program.length) (random : RandomSource) :
    (m.load program).1.snapshot = (powerOn random).snapshot := by
  rw [load_of_lt m h]
  rfl

theorem atStart_load (m : Machine) (h : program.length ≤ 3584) :
    AtStart program (m.load program).1 := by
  rw [load_of_le m h]
  exact
    { memory := Memory.toList_write_powerOn h
      pc := rfl
      index := rfl
      registers := fun x ↦ Vector.getElem_replicate x.lt
      calls := rfl
      delay := rfl
      sound := rfl
      pixels := Display.pixel_blank
      keys := fun key ↦ Vector.getElem_replicate key.lt }

theorem load_eq_ok_iff : (m.load program).2 = .ok () ↔ program.length ≤ 3584 := by
  rcases Nat.lt_or_ge 3584 program.length with h | h
  · rw [load_of_lt m h]
    simp [h]
  · rw [load_of_le m h]
    simp [h]

end Machine

end ChipEight
