import ChipEight.Proofs.Debugger.History
import ChipEight.Proofs.Machine.Draws

/-!
# Loading erases what was before

A machine into which a program is loaded is the same whatever was in it, but for the random source.
A debugger relies on this: the command `reset` loads the program again that the debugger was made
for, so whatever has happened, it leads back to the machine that the debugger was made with. It
always succeeds, because the program is still that one and has fitted before.
-/

namespace ChipEight

namespace Debugger

variable {σ : Type} [MonadFiles (StateM σ)]

theorem reset_of_history {machine : Machine} {clock : Clock Float32} {program : List UInt8}
    {made d : Debugger} {hs : List Happening} {files files' : σ}
    (hmade : ofProgram machine clock program = .ok made)
    (hhistory : history hs (made, files) = some (d, files')) :
    d.reset = ({ d with machine := { made.machine with random := d.machine.random } },
      .ok .done) := by
  have hd : d.MadeFor program := (madeFor_ofProgram hmade).history hhistory
  have hfits : d.program.length ≤ maxProgramSize := by
    rw [hd.program_eq]
    exact hd.fits
  obtain ⟨-, rfl⟩ := ofProgram_eq_ok_iff.mp hmade
  rw [reset_of_le hfits, hd.program_eq, Machine.load_eq machine]

/-- **Loading erases what was before.** Loading a program gives the same verdict and the same
snapshot whatever machine it is loaded into, and no random source moves. It succeeds if and only if
the program has no more than 3584 bytes. There are the font and the program in memory then, and
everything else is zero or empty, with the program counter at `0x200`; a program that is refused
leaves the snapshot of a machine after power-on.

For a debugger that was made for a program this means that whatever has happened to it, the command
`reset` succeeds and gives the snapshot that the debugger had when it was made. Nothing but the
machine changes, and in the machine the random source does not. -/
theorem loading_erases_history :
    (∀ (m n : Machine) (program : List UInt8),
      (m.load program).2 = (n.load program).2 ∧
      (m.load program).1.snapshot = (n.load program).1.snapshot ∧
      (m.load program).1.random = m.random ∧
      ((m.load program).2 = .ok () ↔ program.length ≤ 3584) ∧
      (program.length ≤ 3584 → (m.load program).1.AtStart program) ∧
      (3584 < program.length →
        (m.load program).2 = .error (.programTooLarge program.length) ∧
        ∀ random, (m.load program).1.snapshot = (Machine.powerOn random).snapshot)) ∧
    ∀ (machine : Machine) (clock : Clock Float32) (program : List UInt8) (made d : Debugger)
      (hs : List Happening) (files files' : σ),
      ofProgram machine clock program = .ok made →
      history hs (made, files) = some (d, files') →
      ∃ after, (d.execute (m := StateM σ) .reset).run files' = ((after, .ok .done), files') ∧
        after.machine.snapshot = made.machine.snapshot ∧
        after = { d with machine := { made.machine with random := d.machine.random } } := by
  constructor
  · intro m n program
    refine ⟨?_, n.snapshot_load m program, m.random_load program, Machine.load_eq_ok_iff,
      m.atStart_load, fun h ↦ ⟨?_, m.snapshot_load_of_lt h⟩⟩
    · rw [m.load_eq n]
    · rw [m.load_of_lt h]
  · intro machine clock program made d hs files files' hmade hhistory
    refine ⟨_, ?_, ?_, rfl⟩
    · exact congrArg (·, files') (reset_of_history hmade hhistory)
    · rfl

/-- A debugger as it is made, for a program of one instruction. -/
def unused : Debugger where
  machine := ((Machine.powerOn ⟨0, 0⟩).load [0x60, 0x05]).1
  clock := Clock.ofRate Clock.defaultRate
  breakpoints := []
  running := false
  program := [0x60, 0x05]

/-- What is done with it first: the instruction is executed, a key pressed, the index register
overwritten, and the machine set running. -/
def firstUse : List Happening :=
  [.command (.step 1), .setKey (.ofNat 3) true, .command (.set .index 5), .command .run]

/-- After that the machine is loaded as it was at first, and the debugger still runs. A machine with
a key pressed loads the program as well, and refuses one that is too long by a byte. -/
theorem loading_erases_history_unused :
    (∃ used after, history firstUse (unused, FileTree.empty) = some (used, FileTree.empty) ∧
      used.machine.index = 5 ∧
      (used.execute (m := StateM FileTree) .reset).run FileTree.empty
        = ((after, .ok .done), FileTree.empty) ∧
      after.machine.snapshot = unused.machine.snapshot ∧ after.running = true) ∧
    (((Machine.powerOn ⟨1, 0⟩).setKey (.ofNat 3) true).load [0x60, 0x05]).1.AtStart [0x60, 0x05] ∧
    (((Machine.powerOn ⟨1, 0⟩).setKey (.ofNat 3) true).load (List.replicate 3585 0)).2
      = .error (.programTooLarge 3585) := by
  obtain ⟨hload, hreset⟩ := loading_erases_history (σ := FileTree)
  refine ⟨?_, ?_, ?_⟩
  · have hmade : ofProgram (Machine.powerOn ⟨0, 0⟩) unused.clock unused.program = .ok unused :=
      ofProgram_eq_ok_iff.mpr ⟨by decide, rfl⟩
    have hused : history firstUse (unused, FileTree.empty) = some (_, FileTree.empty) := rfl
    obtain ⟨after, hexecute, hsnapshot, hafter⟩ := hreset _ _ _ _ _ _ _ _ hmade hused
    exact ⟨_, after, hused, rfl, hexecute, hsnapshot, by rw [hafter]; rfl⟩
  · obtain ⟨-, -, -, -, hfits, -⟩ :=
      hload ((Machine.powerOn ⟨1, 0⟩).setKey (.ofNat 3) true) (Machine.powerOn ⟨0, 0⟩) [0x60, 0x05]
    exact hfits (by decide)
  · obtain ⟨-, -, -, -, -, hrefused⟩ :=
      hload ((Machine.powerOn ⟨1, 0⟩).setKey (.ofNat 3) true) (Machine.powerOn ⟨0, 0⟩)
        (List.replicate 3585 0)
    rw [List.length_replicate] at hrefused
    exact (hrefused (by decide)).1

end Debugger

end ChipEight
