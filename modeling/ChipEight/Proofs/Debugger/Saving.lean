import ChipEight.Proofs.Debugger.History

/-!
# Saving and loading again

What is saved can be loaded again, however much has happened in between, as long as the file is not
written. Three things have to fit together for this. The file still holds the text that was saved,
which is all that is asked of the files. The text is read as the snapshot it was written for. And
the snapshot is not refused: it lists no more pending calls than the machine supports, because no
history of a debugger leads to a machine with more of them.

What happens after the saving may change everything in the debugger. Loading brings back the machine
but for the random source, and leaves the rest as it has become.
-/

namespace ChipEight

namespace Debugger

open MonadFiles

variable {σ : Type} [MonadFiles (StateM σ)] {d : Debugger} {s s' : Debugger × σ}
  {path : String} {bytes : ByteArray}

/-! ## A file through a history -/

/-- No command of a history saves to the file that the path leads to. -/
def Spares [KeepsFiles σ] (path : String) : List Happening → Debugger × σ → Prop
  | [], _ => True
  | h :: hs, s =>
    (∀ other, h = .command (.save other) → ¬KeepsFiles.Writes s.2 other path) ∧
      ∀ next, happen s h = some next → Spares path hs next

section Keeping

variable [KeepsFiles σ]

theorem Spares.cons {h : Happening} {hs : List Happening} (hnext : happen s h = some s')
    (hh : ∀ other, h = .command (.save other) → ¬KeepsFiles.Writes s.2 other path)
    (hrest : Spares path hs s') : Spares path (h :: hs) s := by
  refine ⟨hh, fun next hnext' ↦ ?_⟩
  obtain rfl := Option.some.inj (hnext.symm.trans hnext')
  exact hrest

theorem holds_execute {files : σ} {c : Command} (hheld : Holds files path bytes)
    (hc : ∀ other, c = .save other → ¬KeepsFiles.Writes files other path) :
    Holds ((d.execute (m := StateM σ) c).run files).2 path bytes := by
  cases c with
  | save other =>
    rw [run_save]
    exact KeepsFiles.holds_writing hheld (hc other rfl)
  | load other => exact KeepsFiles.holds_reading hheld
  | _ => exact hheld

theorem holds_happen {h : Happening} (hh : happen s h = some s') (hheld : Holds s.2 path bytes)
    (hspares : ∀ other, h = .command (.save other) → ¬KeepsFiles.Writes s.2 other path) :
    Holds s'.2 path bytes := by
  cases h with
  | command c =>
    obtain rfl := Option.some.inj hh
    exact holds_execute hheld fun other hc ↦ hspares other (by rw [hc])
  | poll dt =>
    obtain ⟨polled, -, rfl⟩ := Option.map_eq_some_iff.mp hh
    exact hheld
  | setKey key down =>
    obtain rfl := Option.some.inj hh
    exact hheld
  | restore other =>
    obtain rfl := Option.some.inj hh
    exact KeepsFiles.holds_reading hheld

theorem holds_history {hs : List Happening} (hh : history hs s = some s')
    (hheld : Holds s.2 path bytes) (hspares : Spares path hs s) : Holds s'.2 path bytes := by
  induction hs generalizing s with
  | nil =>
    obtain rfl := Option.some.inj hh
    exact hheld
  | cons h hs ih =>
    obtain ⟨next, hnext, hrest⟩ := history_cons.mp hh
    obtain ⟨hfirst, hothers⟩ := hspares
    exact ih hrest (holds_happen hnext hheld hfirst) (hothers next hnext)

end Keeping

/-! ## Loading what was saved -/

theorem holds_of_save [KeepsFiles σ] {files files' : σ} {saved : Debugger} {report : Report}
    (h : (d.execute (m := StateM σ) (.save path)).run files = ((saved, .ok report), files')) :
    saved = d ∧ Holds files' path d.savedText.toUTF8 := by
  rw [run_save] at h
  obtain ⟨hresult, rfl⟩ := Prod.mk.inj h
  obtain ⟨rfl, hanswer⟩ := Prod.mk.inj hresult
  refine ⟨rfl, KeepsFiles.holds_written ?_⟩
  cases hwrite : (writing files path d.savedText.toUTF8).1 with
  | ok => rfl
  | error fault =>
    rw [hwrite] at hanswer
    cases hanswer

/-- **What was saved is loaded again.** Let a debugger that was made for a program have any history,
and let it save its machine to a file then. After any further history that spares the file, loading
it succeeds. It brings back the machine as it was saved, with the random source as it has become,
and leaves everything else in the debugger as it has become. -/
theorem load_after_save [KeepsFiles σ] {machine : Machine} {clock : Clock Float32}
    {program : List UInt8} {made before saved since : Debugger} {files₀ files₁ files₂ files₃ : σ}
    {earlier later : List Happening} {report : Report}
    (hmade : ofProgram machine clock program = .ok made)
    (hearlier : history earlier (made, files₀) = some (before, files₁))
    (hsave : (before.execute (m := StateM σ) (.save path)).run files₁
      = ((saved, .ok report), files₂))
    (hlater : history later (saved, files₂) = some (since, files₃))
    (hspares : Spares path later (saved, files₂)) :
    ∃ loaded files₄, (since.execute (m := StateM σ) (.load path)).run files₃
        = ((loaded, .ok .done), files₄) ∧
      loaded.machine.snapshot = before.machine.snapshot ∧
      loaded = { since with
        machine := { before.machine with random := since.machine.random } } := by
  have hbefore : before.MadeFor program := (madeFor_ofProgram hmade).history hearlier
  obtain ⟨rfl, hwritten⟩ := holds_of_save hsave
  have hheld : Holds files₃ path saved.savedText.toUTF8 := holds_history hlater hwritten hspares
  have hload := run_load since path files₃
  rw [readText_of_holds hheld, savedText, restored_toJson since hbefore.depth_le] at hload
  exact ⟨_, _, hload, rfl, rfl⟩

/-- A debugger whose program begins with a call. -/
def calling : Debugger where
  machine := ((Machine.powerOn ⟨0, 0⟩).load [0x22, 0x02, 0x70, 0x01]).1
  clock := Clock.ofRate Clock.defaultRate
  breakpoints := []
  running := false
  program := [0x22, 0x02, 0x70, 0x01]

/-- The debugger after the call. -/
def called : Debugger := (calling.step 1).1

/-- What happens after it was saved: it goes on, a key is pressed, another file is written, and in
the end it is reset and runs. -/
def meanwhile : List Happening :=
  [.command (.step 1), .setKey (.ofNat 3) true, .command (.save "other"), .command .reset,
    .command .run]

/-- The files with what was saved to the first of them. -/
def calledFiles (bytes : ByteArray) : FileTree := ⟨[(["called", "work"], .file bytes)]⟩

/-- The call is pending again after the saved machine was loaded. -/
theorem load_after_save_called :
    ∃ files₂, (called.execute (m := StateM FileTree) (.save "called")).run FileTree.empty
        = ((called, .ok .done), files₂) ∧
      ∃ since files₃, history meanwhile (called, files₂) = some (since, files₃) ∧
        since.machine.calls = [] ∧ since.running = true ∧
        ∃ loaded files₄, (since.execute (m := StateM FileTree) (.load "called")).run files₃
            = ((loaded, .ok .done), files₄) ∧
          loaded.machine.calls = [0x200] ∧ loaded.running = true := by
  have hmade : ofProgram (Machine.powerOn ⟨0, 0⟩) calling.clock calling.program = .ok calling :=
    ofProgram_eq_ok_iff.mpr ⟨by decide, rfl⟩
  have hearlier : history [.command (.step 1)] (calling, FileTree.empty)
      = some (called, FileTree.empty) := rfl
  have hcalls : called.machine.calls = [0x200] := by decide +kernel
  have hsave : (called.execute (m := StateM FileTree) (.save "called")).run FileTree.empty
      = ((called, .ok .done), calledFiles called.savedText.toUTF8) := by
    rw [run_save, FileTree.writing_of_target rfl]
    rfl
  -- the debugger when the other file is written
  let pressed : Debugger := { (called.step 1).1 with
    machine := (called.step 1).1.machine.setKey (.ofNat 3) true }
  have hreset : pressed.reset
      = ({ pressed with machine := (pressed.machine.load calling.program).1 }, .ok .done) :=
    reset_of_le (by decide)
  have hspares : Spares "called" meanwhile (called, calledFiles called.savedText.toUTF8) := by
    refine .cons rfl nofun (.cons rfl nofun (.cons rfl ?_ ?_))
    · rintro other ⟨⟩ ⟨place, htarget, hplace⟩
      have hsame := (Except.ok.inj htarget).trans (Except.ok.inj hplace).symm
      exact absurd hsame (by decide)
    · exact .cons rfl nofun (.cons rfl nofun trivial)
  have hlater : history meanwhile (called, calledFiles called.savedText.toUTF8)
      = some (pressed.reset.1.start, (calledFiles called.savedText.toUTF8).put ["other", "work"]
          (.file pressed.savedText.toUTF8)) := rfl
  have hrunning : pressed.reset.1.start.running = true := rfl
  obtain ⟨loaded, files₄, hload, -, hloaded⟩ :=
    load_after_save hmade hearlier hsave hlater hspares
  refine ⟨_, hsave, _, _, hlater, ?_, hrunning, loaded, files₄, hload, ?_, ?_⟩
  · rw [hreset]
    exact Machine.calls_load _ _
  · simp only [hloaded, hcalls]
  · simp only [hloaded, hrunning]

end Debugger

end ChipEight
