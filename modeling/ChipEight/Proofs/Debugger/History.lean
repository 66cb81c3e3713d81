import ChipEight.Proofs.Debugger.Commands
import ChipEight.Proofs.Machine.Calls
import ChipEight.Proofs.Machine.Loading

/-!
# Histories of a debugger

A debugger is made for a program. After that commands are executed, which may fail, the debugger is
polled, and keys are pressed and released, in any order; and the files change meanwhile. Such a
history is a list of happenings, and what comes of it is a function of the debugger and the files it
begins with.

Two things never change in a history, whatever happens. The program is the one that the debugger was
made for, and it fits in memory. And no more calls are pending than the machine supports: no cycle
makes more of them, nothing else in a debugger makes any, and a saved machine that has more is
refused. `Change` says how the machine can change in one happening; all that holds of every history
is proved of these five changes.
-/

namespace ChipEight

/-- What can happen to a debugger. -/
inductive Happening where
  | command (c : Command)
  /-- So many seconds have passed. -/
  | poll (dt : Float32)
  | setKey (key : Nibble) (down : Bool)
  /-- A saved machine is restored without a command, as it is on a launch. -/
  | restore (path : String)
  deriving DecidableEq

/-! ## Changes of the machine -/

namespace Machine

/-- How the machine of a debugger that keeps a program can change. -/
inductive Change (program : List UInt8) (m : Machine) : Machine → Prop
  | cycles (count : ℕ) : Change program m (m.after count)
  | assigned {target : Target} {value : UInt16} {after : Machine}
      (h : m.assign? target value = some after) : Change program m after
  | loaded : Change program m (m.load program).1
  | restored {after : Machine} (hdepth : after.calls.length ≤ stackDepth)
      (hrandom : after.random = m.random) : Change program m after
  | setKey (key : Nibble) (down : Bool) : Change program m (m.setKey key down)

variable {m after : Machine} {program : List UInt8}

theorem Change.refl (program : List UInt8) (m : Machine) : m.Change program m := .cycles 0

theorem depth_after (h : m.calls.length ≤ stackDepth) (count : ℕ) :
    (m.after count).calls.length ≤ stackDepth := by
  induction count with
  | zero => exact h
  | succ count ih =>
    rw [after_succ_left]
    exact depth_step ih

theorem Change.depth_le (hchange : m.Change program after) (h : m.calls.length ≤ stackDepth) :
    after.calls.length ≤ stackDepth := by
  cases hchange with
  | cycles count => exact depth_after h count
  | assigned hassign =>
    rw [assign?_frame hassign]
    exact h
  | loaded =>
    rw [calls_load]
    exact Nat.zero_le _
  | restored hdepth => exact hdepth
  | setKey key down => exact h

end Machine

namespace Debugger

open MonadFiles

variable {σ : Type} [MonadFiles (StateM σ)] {d after : Debugger} {s s' : Debugger × σ}

/-! ## One happening -/

/-- The debugger and the files after something has happened. There is no result of a poll that never
comes back. -/
def happen (s : Debugger × σ) : Happening → Option (Debugger × σ)
  | .command c =>
    let executed := (s.1.execute (m := StateM σ) c).run s.2
    some (executed.1.1, executed.2)
  | .poll dt => (s.1.poll dt).map fun polled ↦ (polled.1, s.2)
  | .setKey key down => some ({ s.1 with machine := s.1.machine.setKey key down }, s.2)
  | .restore path =>
    let restored := (s.1.restore (m := StateM σ) path).run s.2
    some (restored.1.1, restored.2)

/-- The debugger `after` keeps the program of `d`, and its machine comes from that of `d` by a
change. -/
structure ChangesTo (d after : Debugger) : Prop where
  program : after.program = d.program
  machine : d.machine.Change d.program after.machine

theorem changesTo_step (d : Debugger) (count : UInt32) : d.ChangesTo (d.step count).1 := by
  obtain ⟨k, hmachine⟩ := d.exists_after_step count
  exact ⟨rfl, hmachine ▸ .cycles k⟩

theorem changesTo_assign (d : Debugger) (target : Target) (value : UInt16) :
    d.ChangesTo (d.assign target value).1 := by
  rcases d.assign_cases target value with ⟨machine, hassign, hafter⟩ | hafter
  · rw [hafter]
    exact ⟨rfl, .assigned hassign⟩
  · rw [hafter]
    exact ⟨rfl, .refl _ _⟩

theorem changesTo_reset (d : Debugger) : d.ChangesTo d.reset.1 := by
  rw [fst_reset]
  exact ⟨rfl, .loaded⟩

theorem changesTo_restored (d : Debugger) (text : Except FileFault String) :
    d.ChangesTo (d.restored text).1 := by
  rcases d.restored_cases text with ⟨machine, hdepth, hrandom, hafter⟩ | ⟨fault, hafter⟩
  · rw [hafter]
    exact ⟨rfl, .restored hdepth hrandom⟩
  · rw [hafter]
    exact ⟨rfl, .refl _ _⟩

theorem changesTo_execute (d : Debugger) (c : Command) (files : σ) :
    d.ChangesTo ((d.execute (m := StateM σ) c).run files).1.1 := by
  cases c with
  | step count => exact d.changesTo_step count
  | breakpoint action => cases action <;> exact ⟨rfl, .refl _ _⟩
  | set target value => exact d.changesTo_assign target value
  | reset => exact d.changesTo_reset
  | load path => exact d.changesTo_restored _
  | _ => exact ⟨rfl, .refl _ _⟩

theorem changesTo_poll {dt : Float32} {halt : Option Halt} (h : d.poll dt = some (after, halt)) :
    d.ChangesTo after := by
  obtain ⟨k, hmachine, hprogram⟩ := exists_after_of_poll h
  exact ⟨hprogram, hmachine ▸ .cycles k⟩

/-- Whatever happens, the program stays and the machine changes in one of five ways. -/
theorem changesTo_happen {h : Happening} (hh : happen s h = some s') : s.1.ChangesTo s'.1 := by
  cases h with
  | command c =>
    obtain rfl := Option.some.inj hh
    exact s.1.changesTo_execute c s.2
  | poll dt =>
    obtain ⟨⟨after, halt⟩, hpoll, rfl⟩ := Option.map_eq_some_iff.mp hh
    exact changesTo_poll hpoll
  | setKey key down =>
    obtain rfl := Option.some.inj hh
    exact ⟨rfl, .setKey key down⟩
  | restore path =>
    obtain rfl := Option.some.inj hh
    exact s.1.changesTo_restored _

/-! ## Histories -/

/-- The debugger and the files after a number of happenings. -/
def history (hs : List Happening) (s : Debugger × σ) : Option (Debugger × σ) := hs.foldlM happen s

theorem history_cons {h : Happening} {hs : List Happening} :
    history (h :: hs) s = some s' ↔ ∃ next, happen s h = some next ∧ history hs next = some s' := by
  rw [history, List.foldlM_cons]
  exact Option.bind_eq_some_iff

theorem history_concat {hs : List Happening} {h : Happening} :
    history (hs ++ [h]) s = some s' ↔ ∃ before, history hs s = some before ∧
      happen before h = some s' := by
  simp only [history, List.foldlM_append, List.foldlM_cons, List.foldlM_nil, bind_pure]
  exact Option.bind_eq_some_iff

/-- A debugger that was made for a program, with all that stays true of it. -/
structure MadeFor (program : List UInt8) (d : Debugger) : Prop where
  program_eq : d.program = program
  fits : program.length ≤ maxProgramSize
  depth_le : d.machine.calls.length ≤ stackDepth

variable {program : List UInt8}

theorem ofProgram_eq_ok_iff {machine : Machine} {clock : Clock Float32} :
    ofProgram machine clock program = .ok d ↔ program.length ≤ maxProgramSize ∧
      d = ⟨(machine.load program).1, clock, [], false, program⟩ := by
  rw [ofProgram, Machine.load]
  by_cases hfits : program.length ≤ maxProgramSize
  · rw [if_pos hfits]
    simp [hfits, eq_comm]
  · rw [if_neg hfits]
    simp [hfits]

theorem madeFor_ofProgram {machine : Machine} {clock : Clock Float32}
    (h : ofProgram machine clock program = .ok d) : d.MadeFor program := by
  obtain ⟨hfits, rfl⟩ := ofProgram_eq_ok_iff.mp h
  refine ⟨rfl, hfits, ?_⟩
  rw [Machine.calls_load]
  exact Nat.zero_le _

theorem MadeFor.of_changesTo (hd : d.MadeFor program) (h : d.ChangesTo after) :
    after.MadeFor program :=
  ⟨h.program.trans hd.program_eq, hd.fits, h.machine.depth_le hd.depth_le⟩

theorem MadeFor.history {hs : List Happening} (hd : s.1.MadeFor program)
    (h : history hs s = some s') : s'.1.MadeFor program := by
  induction hs generalizing s with
  | nil =>
    obtain rfl := Option.some.inj h
    exact hd
  | cons first hs ih =>
    obtain ⟨next, hnext, hrest⟩ := history_cons.mp h
    exact ih (hd.of_changesTo (changesTo_happen hnext)) hrest

end Debugger

end ChipEight
