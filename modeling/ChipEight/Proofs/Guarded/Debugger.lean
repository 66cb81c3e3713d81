import ChipEight.Debugger
import ChipEight.Proofs.Debugger.Commands
import ChipEight.Proofs.Guarded.Cycle

/-!
# Guarded commands

What is asked of a machine from outside, with all the checks its operations need: snapshots, whose
rows are packed and unpacked bit by bit, loading a program, looking at the current instruction, and
the commands of the debugger with whatever numbers they come.

None of the checks can fail. Numbers that come from outside are cut down or refused before they are
used as an index, and the rest is bounded by the sizes of the machine. The one exception is the
program a debugger loads again: its length is added to an address without a test. A list of bytes
that was ever in memory takes at most half of the addresses there are, which leaves room for that.
-/

namespace ChipEight

namespace Guarded

/-! ## Snapshots -/

def takeIn (mask : BitVec 64) (pixel : Bool) : Except Trap (BitVec 64) := do
  return (← shiftLeft mask 1) ||| (BitVec.ofBool pixel).setWidth 64

/-- The state of the machine as a snapshot, with the rows packed pixel by pixel. -/
def snapshot (m : Machine) : Except Trap Snapshot := do
  let rows := Vector.ofFn fun y ↦ List.ofFn fun x ↦ m.display.pixel x y
  let display ← rows.mapM fun pixels ↦ pixels.foldlM takeIn 0
  return { m.snapshot with display }

def unpackPixel (mask : BitVec 64) (column : ℕ) : Except Trap Bool := do
  let places ← sub (← sub displayWidth 1) column
  return (← shiftRight mask places) &&& 1#64 == 1#64

def unpackRow (mask : BitVec 64) : Except Trap (BitVec 64) := do
  let pixels ← (List.range displayWidth).mapM (unpackPixel mask)
  return pixels.foldl Display.takeIn 0

/-- Replaces the state of a machine by a snapshot, with the rows unpacked pixel by pixel. -/
def restore (s : Snapshot) : Guarded Unit := do
  let display ← check (s.display.mapM unpackRow)
  Procedure.restore { s with display }

theorem takeIn_eq : takeIn = fun mask pixel ↦ pure (Display.takeIn mask pixel) := by
  funext mask pixel
  rw [takeIn, shiftLeft_of_lt (by decide)]
  rfl

theorem snapshot_eq (m : Machine) : snapshot m = .ok m.snapshot := by
  have hrows : (Vector.ofFn fun y ↦ List.ofFn fun x ↦ m.display.pixel x y).map
      (fun pixels ↦ pixels.foldl Display.takeIn 0) = m.display := by
    refine Vector.ext fun y hy ↦ ?_
    rw [Vector.getElem_map, Vector.getElem_ofFn]
    exact m.display.packRow_pixel ⟨y, hy⟩
  rw [snapshot]
  simp only [takeIn_eq, List.foldlM_pure, Vector.mapM_pure, hrows]
  rfl

theorem unpackPixel_eq (mask : BitVec 64) (x : Fin 64) :
    unpackPixel mask x.val = pure (Display.unpackRow mask x) := by
  have hx := x.isLt
  rw [unpackPixel, sub_of_le (by decide), ok_bind, displayWidth, sub_of_le (by omega), ok_bind,
    shiftRight_of_lt (by omega)]
  rfl

theorem unpackRow_eq : unpackRow = pure := by
  funext mask
  have hpixels : (List.range displayWidth).mapM (unpackPixel mask)
      = pure (List.ofFn (Display.unpackRow mask)) := by
    rw [displayWidth, ← List.map_coe_finRange_eq_range, List.mapM_map]
    simp only [Function.comp_def, unpackPixel_eq, List.mapM_pure, List.ofFn_eq_map]
  rw [unpackRow, hpixels, pure_bind]
  exact congrArg Except.ok (Display.packRow_unpackRow mask)

theorem restore_eq (s : Snapshot) : restore s = (Procedure.restore s).guarded := by
  have hrows : s.display.mapM unpackRow = (.ok s.display : Except Trap Display) := by
    rw [unpackRow_eq]
    exact (Vector.mapM_pure id).trans (congrArg Except.ok (Vector.map_id _))
  rw [restore, hrows]
  rfl

/-! ## Programs -/

/-- Resets the machine and loads a program, if there is a range of memory for it. -/
def load (program : List UInt8) : Guarded Unit := do
  let memory ← overwrite Memory.zero 0 Memory.font.length Memory.font
  modify fun m ↦ { m.reset with memory }
  let last ← add programStart program.length
  match slice? (← get).memory.toList programStart last with
  | some _ =>
    let memory ← overwrite (← get).memory programStart last program
    modify fun m ↦ { m with memory }
  | none => throw (.fault (.programTooLarge program.length))

/-- The word that two bytes make up, and the instruction it decodes to. -/
def item (bytes : List UInt8) : Except Trap (UInt16 × Instruction) := do
  let high ← element bytes 0
  let low ← element bytes 1
  let word := high.toUInt16 <<< 8 ||| low.toUInt16
  return (word, ← decode word)

def current? (m : Machine) : Except Trap (Option Instruction) := do
  let last ← add m.pc.toNat 2
  match slice? m.memory.toList m.pc.toNat last with
  | some bytes => return some (← item bytes).2
  | none => return none

theorem slice?_powerOn (program : List UInt8) :
    slice? Memory.powerOn.toList programStart (programStart + program.length)
      = if program.length ≤ maxProgramSize then
          some ((Memory.powerOn.toList.drop programStart).take program.length)
        else none := by
  rw [slice?, Vector.length_toList, Nat.add_sub_cancel_left]
  refine if_congr ?_ rfl rfl
  rw [maxProgramSize, memorySize, programStart]
  omega

/-- Loading a program traps nowhere, if the program is no longer than a list in memory can be. -/
theorem run_load {program : List UInt8} (m : Machine) (h : program.length < USize.size / 2) :
    (load program).run m
      = if program.length ≤ maxProgramSize then
          .ok () { m.reset with memory := Memory.powerOn.write programStart program }
        else .error (.fault (.programTooLarge program.length)) m.reset := by
  have hsize := USize.le_size
  have hfont : overwrite Memory.zero 0 Memory.font.length Memory.font = .ok Memory.powerOn :=
    Nat.zero_add Memory.font.length ▸ overwrite_memory Memory.zero (by decide)
  have hsum : add programStart program.length = .ok (programStart + program.length) :=
    if_pos (by rw [programStart]; omega)
  have hmemory : m.reset.memory = Memory.powerOn := by rw [Machine.reset, Machine.powerOn]
  have hreset : ({ m.reset with memory := Memory.powerOn } : Machine) = m.reset := by
    rw [← hmemory]
  rw [load, hfont, hsum]
  simp only [liftM_ok, pure_bind, run_modify_bind, run_get_bind, slice?_powerOn, hreset, hmemory]
  by_cases hfits : program.length ≤ maxProgramSize
  · have hbytes : programStart + program.length ≤ memorySize :=
      Nat.add_le_of_le_sub' (by decide) hfits
    rw [if_pos hfits, if_pos hfits]
    simp only [run_get_bind, hmemory, overwrite_memory _ hbytes, liftM_ok, pure_bind]
    rfl
  · rw [if_neg hfits, if_neg hfits]
    rfl

theorem item_eq (high low : UInt8) :
    item [high, low] = pure (high.toUInt16 <<< 8 ||| low.toUInt16,
      Instruction.decode (high.toUInt16 <<< 8 ||| low.toUInt16)) := by
  simp only [item, element, List.getElem?_cons_zero, List.getElem?_cons_succ, ok_bind, decode_eq]

theorem current?_eq (m : Machine) : current? m = .ok m.current? := by
  have hpc := m.pc.toNat_lt
  rw [current?, add_of_lt (by omega), ok_bind, Machine.current?]
  by_cases h : m.pc.toNat + 2 ≤ memorySize
  · have hbytes : m.memory.block m.pc.toNat 2
        = [m.memory.byte m.pc.toNat, m.memory.byte (m.pc.toNat + 1)] := rfl
    rw [slice?_memory m.memory h, hbytes, if_pos h]
    dsimp only
    rw [item_eq]
    rfl
  · rw [slice?, Vector.length_toList, if_neg fun hc ↦ h hc.2, if_neg h]
    rfl

/-! ## Commands -/

def steps (watched : UInt16 → Bool) : ℕ → Guarded Unit
  | 0 => return ()
  | count + 1 => do
    let _ ← cycle
    unless watched (← get).pc do steps watched count

/-- What a debugger answers after its machine was worked on. -/
def onMachine (d : Debugger) (p : Guarded Unit) :
    Except Trap (Debugger × Except CommandFault Report) :=
  match p.run d.machine with
  | .ok () machine => .ok ({ d with machine }, .ok .done)
  | .error (.fault fault) machine => .ok ({ d with machine }, .error (.machine fault))
  | .error (.trap trap) _ => .error trap

/-- Overwrites a part of the machine. Only the registers are an array. -/
def assign (d : Debugger) (target : Target) (value : UInt16) :
    Except Trap (Debugger × Except CommandFault Report) := do
  match target with
  | .v x =>
    if value.toNat < 256 then
      let v ← replace d.machine.v x.val value.toUInt8
      return ({ d with machine := { d.machine with v } }, .ok .done)
    else return (d, .error .outOfRange)
  | target => return d.assign target value

def dump (mem : Memory) (start length : UInt16) : Except Trap (Except CommandFault Report) := do
  if memorySize ≤ start.toNat then return .error .outOfRange
  let last := min (← add start.toNat length.toNat) memorySize
  return .ok (.memory start (← slice mem.toList start.toNat last))

def pairs : List UInt8 → List (List UInt8)
  | high :: low :: rest => [high, low] :: pairs rest
  | _ => []

def listing (mem : Memory) (start length : UInt16) : Except Trap (Except CommandFault Report) := do
  if memorySize ≤ start.toNat then return .error .outOfRange
  let bytes ← slice mem.toList start.toNat memorySize
  return .ok (.disassembly start (← ((pairs bytes).take length.toNat).mapM item))

theorem run_steps (watched : UInt16 → Bool) (count done : ℕ) (m : Machine) :
    (steps watched count).run m
      = match (m.runFrom watched done count).halt with
        | some (.faulted fault) => .error (.fault fault) (m.runFrom watched done count).machine
        | _ => .ok () (m.runFrom watched done count).machine := by
  induction count generalizing done m with
  | zero => rfl
  | succ count ih =>
    rw [steps, cycle_eq, EStateM.run_bind, run_guarded, Machine.runFrom]
    have hcycle : Procedure.cycle.run m = m.step := rfl
    rw [hcycle]
    cases m.step with
    | error fault after => rfl
    | ok outcome after =>
      dsimp only [Machine.untrapped]
      rw [run_get_bind]
      by_cases hwatched : watched after.pc = true
      · rw [if_pos hwatched, if_pos hwatched]
        rfl
      · rw [if_neg hwatched, if_neg hwatched, ih (done + 1)]

theorem onMachine_steps (d : Debugger) (count : UInt32) :
    onMachine d (steps d.stopsAt count.toNat) = .ok (d.step count) := by
  rw [onMachine, run_steps d.stopsAt count.toNat 0, Debugger.step, Debugger.stepped, Machine.run]
  cases (d.machine.runFrom d.stopsAt 0 count.toNat).halt with
  | none => rfl
  | some halt => cases halt <;> rfl

theorem onMachine_load (d : Debugger) (h : d.program.length < USize.size / 2) :
    onMachine d (load d.program) = .ok d.reset := by
  rw [onMachine, run_load d.machine h, Debugger.reset, Machine.load]
  by_cases hfits : d.program.length ≤ maxProgramSize
  · rw [if_pos hfits, if_pos hfits]
  · rw [if_neg hfits, if_neg hfits]

theorem assign_eq (d : Debugger) (target : Target) (value : UInt16) :
    assign d target value = .ok (d.assign target value) := by
  cases target with
  | v x =>
    rw [assign, Debugger.assign, Machine.assign?]
    by_cases h : value.toNat < 256
    · simp only [if_pos h, replace_of_lt _ x.lt, ok_bind]
      rfl
    · simp only [if_neg h]
      rfl
  | _ => rfl

/-- A range of memory that is cut down to the end of memory is what there is of it. -/
theorem dump_eq (mem : Memory) (start length : UInt16) :
    dump mem start length
      = .ok (Debugger.inMemory start (.memory start (mem.dump start.toNat length.toNat))) := by
  have hstart := start.toNat_lt
  have hlength := length.toNat_lt
  rw [dump, Debugger.inMemory]
  by_cases h : start.toNat < memorySize
  · have hcut : (mem.toList.drop start.toNat).take
        (min (start.toNat + length.toNat) memorySize - start.toNat)
          = mem.dump start.toNat length.toNat := by
      rw [Memory.dump, List.take_eq_take_iff, List.length_drop, Vector.length_toList]
      omega
    have hslice : slice mem.toList start.toNat (min (start.toNat + length.toNat) memorySize)
        = .ok ((mem.toList.drop start.toNat).take
          (min (start.toNat + length.toNat) memorySize - start.toNat)) :=
      slice_toList mem (by omega) (Nat.min_le_right _ _)
    rw [if_neg (Nat.not_le.mpr h), if_pos h, add_of_lt (by omega), ok_bind]
    dsimp only
    rw [hslice, ok_bind, hcut]
    rfl
  · rw [if_pos (Nat.le_of_not_lt h), if_neg h]
    rfl

theorem mapM_item (bytes : List UInt8) (length : ℕ) :
    ((pairs bytes).take length).mapM item
      = pure (((Memory.pairs bytes).take length).map
        fun word ↦ (word, Instruction.decode word)) := by
  fun_induction pairs bytes generalizing length with
  | case1 high low rest ih =>
    cases length with
    | zero => rfl
    | succ length =>
      rw [Memory.pairs, List.take_succ_cons, List.take_succ_cons, List.mapM_cons, item_eq, ih]
      rfl
  | case2 bytes hshort =>
    have hnone : Memory.pairs bytes = [] := by
      rw [Memory.pairs]
      exact hshort
    rw [hnone, List.take_nil, List.take_nil]
    rfl

theorem listing_eq (mem : Memory) (start length : UInt16) :
    listing mem start length
      = .ok (Debugger.inMemory start
        (.disassembly start (mem.listing start.toNat length.toNat))) := by
  rw [listing, Debugger.inMemory]
  by_cases h : start.toNat < memorySize
  · have hall : (mem.toList.drop start.toNat).take (memorySize - start.toNat)
        = mem.toList.drop start.toNat :=
      List.take_of_length_le (by rw [List.length_drop, Vector.length_toList])
    rw [if_neg (Nat.not_le.mpr h), if_pos h, slice_toList mem (Nat.le_of_lt h) (Nat.le_refl _),
      ok_bind, hall, mapM_item]
    rfl
  · rw [if_pos (Nat.le_of_not_lt h), if_neg h]
    rfl

section Files

variable {m : Type → Type} [Monad m] [MonadFiles m]

def save (d : Debugger) (path : String) :
    m (Except Trap (Debugger × Except CommandFault Report)) := do
  match snapshot d.machine with
  | .error trap => return .error trap
  | .ok s =>
    match ← MonadFiles.writeText path s.toJson with
    | .ok () => return .ok (d, .ok .done)
    | .error fault => return .ok (d, .error (.file fault))

def restoreText (d : Debugger) (text : String) :
    Except Trap (Debugger × Except CommandFault Report) :=
  match Snapshot.ofJson text with
  | .error fault => .ok (d, .error (.format fault))
  | .ok s => onMachine d (restore s)

def restoreFile (d : Debugger) (path : String) :
    m (Except Trap (Debugger × Except CommandFault Report)) := do
  match ← MonadFiles.readText path with
  | .error fault => return .ok (d, .error (.file fault))
  | .ok text => return restoreText d text

def executeCommand (d : Debugger) :
    Command → m (Except Trap (Debugger × Except CommandFault Report))
  | .step count => return onMachine d (steps d.stopsAt count.toNat)
  | .set target value => return assign d target value
  | .memory start length => return (dump d.machine.memory start length).map fun answer ↦ (d, answer)
  | .disassemble start length =>
    return (listing d.machine.memory start length).map fun answer ↦ (d, answer)
  | .reset => return onMachine d (load d.program)
  | .save path => save d path
  | .load path => restoreFile d path
  -- the others leave the machine alone
  | .run => return .ok (d.start, .ok .done)
  | .pause => return .ok (d.pause, .ok .done)
  | .breakpoint action =>
    return .ok ((d.onBreakpoints action).1, .ok (d.onBreakpoints action).2)
  | .quit => return .ok (d, .ok .quit)

variable [LawfulMonad m]

theorem save_eq (d : Debugger) (path : String) :
    save (m := m) d path = Except.ok <$> d.execute (.save path) := by
  rw [save, snapshot_eq, Debugger.execute, Debugger.save, bind_assoc, map_bind, Debugger.savedText]
  refine bind_congr fun written ↦ ?_
  cases written <;> simp

theorem restoreText_eq (d : Debugger) (text : String) :
    restoreText d text
      = .ok ((d.restoreText text).1, (d.restoreText text).2.map fun () ↦ .done) := by
  rw [restoreText, Debugger.restoreText]
  cases Snapshot.ofJson text with
  | error fault => rfl
  | ok s =>
    dsimp only
    rw [onMachine, restore_eq, run_guarded, Machine.restore]
    cases (Procedure.restore s).run d.machine <;> rfl

theorem restoreFile_eq (d : Debugger) (path : String) :
    restoreFile (m := m) d path = Except.ok <$> d.execute (.load path) := by
  rw [restoreFile, Debugger.execute, Debugger.restore, bind_assoc, map_bind]
  refine bind_congr fun text ↦ ?_
  cases text with
  | error fault => simp [Debugger.restored, Except.map]
  | ok text => simp [Debugger.restored, restoreText_eq]

theorem executeCommand_eq (d : Debugger) (h : d.program.length < USize.size / 2) (c : Command) :
    executeCommand (m := m) d c = Except.ok <$> d.execute c := by
  cases c with
  | step count => rw [executeCommand, onMachine_steps, Debugger.execute, map_pure]
  | set target value => rw [executeCommand, assign_eq, Debugger.execute, map_pure]
  | memory start length =>
    rw [executeCommand, dump_eq, Debugger.execute, map_pure]
    rfl
  | disassemble start length =>
    rw [executeCommand, listing_eq, Debugger.execute, map_pure]
    rfl
  | reset => rw [executeCommand, onMachine_load d h, Debugger.execute, map_pure]
  | save path => rw [executeCommand, save_eq]
  | load path => rw [executeCommand, restoreFile_eq]
  | _ => rw [executeCommand, Debugger.execute, map_pure]

/-- **Nothing traps.** Every word is decoded. A cycle, taking a snapshot, restoring one and looking
at the current instruction make all their checks and end as they do without them, whatever is in the
machine and in the snapshot. So does every command of a debugger with whatever numbers it comes, if
the program that is loaded again is no longer than a list in memory can be. -/
theorem traps_nowhere :
    (∀ word, decode word = .ok (Instruction.decode word)) ∧
      (∀ machine : Machine,
        cycle.run machine = Machine.untrapped machine.step ∧
        snapshot machine = .ok machine.snapshot ∧
        (∀ s, (restore s).run machine = Machine.untrapped (machine.restore s)) ∧
        current? machine = .ok machine.current?) ∧
      ∀ d : Debugger, d.program.length < USize.size / 2 →
        ∀ c, executeCommand (m := m) d c = Except.ok <$> d.execute c := by
  refine ⟨decode_eq, fun machine ↦ ⟨?_, snapshot_eq machine, fun s ↦ ?_, current?_eq machine⟩,
    executeCommand_eq⟩
  · rw [cycle_eq, run_guarded, Machine.step]
  · rw [restore_eq, run_guarded, Machine.restore]

end Files

/-- A debugger whose machine points to the last addresses there are. -/
def farOut : Debugger where
  machine := { Machine.powerOn ⟨0, 0⟩ with pc := 0xFFFF, index := 0xFFFF }
  clock := Clock.ofRate Clock.defaultRate
  breakpoints := []
  running := false
  program := [0x00, 0xE0]

/-- A dump that is asked for far more bytes than there are left shows the last one. -/
theorem traps_nowhere_farOut :
    farOut.program.length < USize.size / 2 ∧
      (executeCommand (m := StateM FileTree) farOut (.memory 0xFFF 0xFFFF)).run FileTree.empty
        = (.ok (farOut, .ok (.memory 0xFFF [0])), FileTree.empty) := by
  have hlength : farOut.program.length < USize.size / 2 := by
    have hsize := USize.le_size
    have hprogram : farOut.program.length = 2 := rfl
    omega
  have hbytes : farOut.machine.memory.dump 0xFFF 0xFFFF = [0] := by decide +kernel
  have hdump : Debugger.inMemory 0xFFF
      (.memory 0xFFF (farOut.machine.memory.dump (0xFFF : UInt16).toNat (0xFFFF : UInt16).toNat))
        = .ok (.memory 0xFFF [0]) :=
    congrArg (fun bytes ↦ Debugger.inMemory 0xFFF (.memory 0xFFF bytes)) hbytes
  refine ⟨hlength, ?_⟩
  rw [(traps_nowhere (m := StateM FileTree)).2.2 farOut hlength]
  exact congrArg (fun answer ↦ ((.ok (farOut, answer) : Except Trap _), FileTree.empty)) hdump

end Guarded

end ChipEight
