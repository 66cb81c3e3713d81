import ChipEight.Proofs.Debugger.Poll
import ChipEight.Proofs.Files.Keeping
import ChipEight.Proofs.Snapshot.Restoring
import ChipEight.Proofs.Snapshot.RoundTrip

/-!
# Commands that fail

A command may fail early or late: before anything is read, between reading a file, decoding it and
restoring the machine in it, or in the middle of a number of cycles. Whenever it fails, nothing is
left half done. The only command that leaves something is the one that asks for cycles: those before
the failing one stand, and the failing one leaves no trace.

`reset` is no exception, but for another reason: it cannot fail, since the program it loads was
accepted when the debugger was made. A debugger that keeps a program too long for any machine would
be left without one; no debugger is made for such a program, and none ever gets another program.
-/

namespace ChipEight

namespace Machine

variable {m : Machine}

theorem assign?_frame {target : Target} {value : UInt16} {after : Machine}
    (h : m.assign? target value = some after) :
    after = { m with
      pc := after.pc, index := after.index, v := after.v, delay := after.delay,
      sound := after.sound } := by
  cases target with
  | v x =>
    obtain ⟨b, -, rfl⟩ := Option.map_eq_some_iff.mp h
    rfl
  | index =>
    obtain rfl := Option.some.inj h
    rfl
  | pc =>
    obtain ⟨-, hjump⟩ := Option.ite_none_right_eq_some.mp h
    obtain rfl := Option.some.inj hjump
    rfl
  | delay =>
    obtain ⟨b, -, rfl⟩ := Option.map_eq_some_iff.mp h
    rfl
  | sound =>
    obtain ⟨b, -, rfl⟩ := Option.map_eq_some_iff.mp h
    rfl

end Machine

namespace Debugger

open MonadFiles

variable {d after : Debugger} {fault : CommandFault}

/-! ## What single commands do -/

theorem assign_cases (d : Debugger) (target : Target) (value : UInt16) :
    (∃ machine, d.machine.assign? target value = some machine ∧
        d.assign target value = ({ d with machine }, .ok .done)) ∨
      d.assign target value = (d, .error .outOfRange) := by
  rw [assign]
  cases hassign : d.machine.assign? target value with
  | none => exact .inr rfl
  | some machine => exact .inl ⟨machine, rfl, rfl⟩

theorem fst_assign (d : Debugger) (target : Target) (value : UInt16) :
    (d.assign target value).1 = { d with machine := (d.assign target value).1.machine } := by
  rcases d.assign_cases target value with ⟨machine, -, hassign⟩ | hassign
  · rw [hassign]
  · rw [hassign]

theorem exists_of_step_error {count : UInt32} (h : d.step count = (after, .error fault)) :
    ∃ j < count.toNat, ∃ cause, fault = .machine cause ∧
      (∀ i < j, ∃ outcome,
        (d.machine.after i).step = .ok outcome (d.machine.after (i + 1)) ∧
        d.stopsAt (d.machine.after (i + 1)).pc = false) ∧
      (d.machine.after j).step = .error cause (d.machine.after j) ∧
      after = { d with machine := d.machine.after j } := by
  rw [step] at h
  obtain ⟨rfl, hanswer⟩ := Prod.mk.inj h
  rw [stepped] at hanswer ⊢
  split at hanswer
  · next cause hhalt =>
    obtain rfl := Except.error.inj hanswer
    obtain ⟨j, hj, hbefore, hfails, hmachine⟩ := Machine.exists_of_run_faulted hhalt
    exact ⟨j, hj, cause, rfl, hbefore, hfails, by rw [hmachine]⟩
  · cases hanswer

/-- Whether the program is loaded or refused, the machine is the one that this leaves. -/
theorem fst_reset (d : Debugger) :
    d.reset.1 = { d with machine := (d.machine.load d.program).1 } := by
  rw [reset]
  rcases d.machine.load d.program with ⟨machine, _ | _⟩
  · rfl
  · rfl

theorem reset_of_le (hfits : d.program.length ≤ maxProgramSize) :
    d.reset = ({ d with machine := (d.machine.load d.program).1 }, .ok .done) := by
  rw [reset, Machine.load, if_pos hfits]

theorem restored_of_ofJson_error {text : String} {fault : JsonText.Fault}
    (hs : Snapshot.ofJson text = .error fault) :
    d.restored (.ok text) = (d, .error (.format fault)) := by
  rw [restored, restoreText, hs]

theorem restored_of_lt {text : String} {s : Snapshot} (hs : Snapshot.ofJson text = .ok s)
    (hdeep : stackDepth < s.stack.length) :
    d.restored (.ok text) = (d, .error (.machine (.stackTooDeep s.stack.length))) := by
  simp only [restored, restoreText, hs, Machine.restore_of_lt d.machine hdeep]

theorem restored_of_le {text : String} {s : Snapshot} (hs : Snapshot.ofJson text = .ok s)
    (hdepth : s.stack.length ≤ stackDepth) :
    ∃ machine : Machine, machine.Agrees s ∧ machine.random = d.machine.random ∧
      d.restored (.ok text) = ({ d with machine }, .ok ()) := by
  obtain ⟨machine, hrestore, hagrees, hrandom⟩ := Machine.restore_of_le d.machine hdepth
  refine ⟨machine, hagrees, hrandom, ?_⟩
  simp only [restored, restoreText, hs, hrestore]

/-- The text that saves a machine restores it, but for the random source. -/
theorem restored_toJson (d : Debugger) {m : Machine} (hdepth : m.calls.length ≤ stackDepth) :
    d.restored (.ok m.snapshot.toJson)
      = ({ d with machine := { m with random := d.machine.random } }, .ok ()) := by
  have htext : Snapshot.ofJson m.snapshot.toJson = .ok m.snapshot := by
    rw [← Snapshot.text_document, Snapshot.ofJson_document]
  have hstack : m.snapshot.stack.length ≤ stackDepth := by
    rw [Machine.length_stack_snapshot]
    exact hdepth
  obtain ⟨machine, hagrees, hrandom, hrestored⟩ := restored_of_le (d := d) htext hstack
  rw [hrestored, (Machine.agrees_snapshot m).eq_of_agrees hagrees, hrandom]

/-- A saved machine is restored as a whole, or nothing is done. -/
theorem restored_cases (d : Debugger) (text : Except FileFault String) :
    (∃ machine : Machine, machine.calls.length ≤ stackDepth ∧ machine.random = d.machine.random ∧
        d.restored text = ({ d with machine }, .ok ())) ∨
      ∃ fault, d.restored text = (d, .error fault) := by
  cases text with
  | error fault => exact .inr ⟨_, rfl⟩
  | ok text =>
    cases hs : Snapshot.ofJson text with
    | error fault => exact .inr ⟨_, restored_of_ofJson_error hs⟩
    | ok s =>
      rcases Nat.lt_or_ge stackDepth s.stack.length with hdeep | hdepth
      · exact .inr ⟨_, restored_of_lt hs hdeep⟩
      · obtain ⟨machine, hagrees, hrandom, hrestored⟩ := restored_of_le (d := d) hs hdepth
        refine .inl ⟨machine, ?_, hrandom, hrestored⟩
        rw [hagrees.stack, List.length_reverse]
        exact hdepth

theorem fst_restored (d : Debugger) (text : Except FileFault String) :
    (d.restored text).1 = { d with machine := (d.restored text).1.machine } := by
  rcases d.restored_cases text with ⟨machine, -, -, hrestored⟩ | ⟨fault, hrestored⟩
  · rw [hrestored]
  · rw [hrestored]

section Files

variable {σ : Type} [MonadFiles (StateM σ)] {files files' : σ}

theorem run_step (d : Debugger) (count : UInt32) (files : σ) :
    (d.execute (m := StateM σ) (.step count)).run files = (d.step count, files) :=
  rfl

/-- Saving fails if the file cannot be written, and does nothing to the debugger. -/
theorem run_save (d : Debugger) (path : String) (files : σ) :
    (d.execute (m := StateM σ) (.save path)).run files
      = ((d, ((writing files path d.savedText.toUTF8).1.map fun () ↦ Report.done).mapError .file),
        (writing files path d.savedText.toUTF8).2) := by
  have hrun : (d.execute (m := StateM σ) (.save path)).run files
      = ((d, ((d.save (m := StateM σ) path).run files).1),
        ((d.save (m := StateM σ) path).run files).2) := rfl
  have hwrite : (writeText (m := StateM σ) path d.savedText).run files
      = writing files path d.savedText.toUTF8 := rfl
  rw [hrun, save, StateT.run_bind, hwrite]
  rcases writing files path d.savedText.toUTF8 with ⟨fault | ⟨⟩, files'⟩
  · rfl
  · rfl

/-- What restoring does depends on nothing but the text that is read. -/
theorem run_restore (d : Debugger) (path : String) (files : σ) :
    (d.restore (m := StateM σ) path).run files
      = (d.restored ((readText (m := StateM σ) path).run files).1, (reading files path).2) :=
  rfl

theorem run_load (d : Debugger) (path : String) (files : σ) :
    (d.execute (m := StateM σ) (.load path)).run files
      = (((d.restored ((readText (m := StateM σ) path).run files).1).1,
          (d.restored ((readText (m := StateM σ) path).run files).1).2.map fun () ↦ .done),
        (reading files path).2) :=
  rfl

theorem eq_of_execute_error {c : Command} (hfits : d.program.length ≤ maxProgramSize)
    (hc : ∀ count, c ≠ .step count)
    (h : (d.execute (m := StateM σ) c).run files = ((after, .error fault), files')) :
    after = d := by
  obtain ⟨hresult, -⟩ := Prod.mk.inj h
  cases c with
  | step count => exact absurd rfl (hc count)
  | set target value =>
    rcases d.assign_cases target value with ⟨machine, -, hassign⟩ | hassign
    · cases hassign.symm.trans hresult
    · exact (congrArg Prod.fst (hassign.symm.trans hresult)).symm
  | reset => cases (reset_of_le hfits).symm.trans hresult
  | save path =>
    rw [run_save] at h
    exact (congrArg (·.1.1) h).symm
  | load path =>
    rw [run_load] at h
    rcases d.restored_cases ((readText (m := StateM σ) path).run files).1 with
      ⟨machine, -, -, hrestored⟩ | ⟨cause, hrestored⟩
    · rw [hrestored] at h
      cases h
    · rw [hrestored] at h
      exact (congrArg (·.1.1) h).symm
  | memory start length => exact (congrArg Prod.fst hresult).symm
  | disassemble start length => exact (congrArg Prod.fst hresult).symm
  | _ => cases hresult

/-- **A command that fails leaves nothing half done.** A failed command that is no request for
cycles leaves the debugger as it was, with everything in it. If a request for cycles fails, the
cycles before some cycle succeeded, none of them landed on a breakpoint, and that cycle is the one
that failed; the machine is the one after the cycles before it, and nothing else has changed.

The program of every debugger fits: `ofProgram` accepts no other, and nothing changes it. -/
theorem failed_command_atomic {c : Command} (hfits : d.program.length ≤ maxProgramSize)
    (h : (d.execute (m := StateM σ) c).run files = ((after, .error fault), files')) :
    ((∀ count, c ≠ .step count) → after = d) ∧
      ∀ count, c = .step count → ∃ j < count.toNat, ∃ cause, fault = .machine cause ∧
        (∀ i < j, ∃ outcome,
          (d.machine.after i).step = .ok outcome (d.machine.after (i + 1)) ∧
          d.stopsAt (d.machine.after (i + 1)).pc = false) ∧
        (d.machine.after j).step = .error cause (d.machine.after j) ∧
        after = { d with machine := d.machine.after j } := by
  refine ⟨fun hc ↦ eq_of_execute_error hfits hc h, ?_⟩
  rintro count rfl
  exact exists_of_step_error (Prod.mk.inj h).1

/-- A debugger whose program sets a register and then returns, though nothing has called it. -/
def returningNowhere : Debugger where
  machine := ((Machine.powerOn ⟨0, 0⟩).load [0x60, 0x05, 0x00, 0xEE]).1
  clock := Clock.ofRate Clock.defaultRate
  breakpoints := [0x300]
  running := true
  program := [0x60, 0x05, 0x00, 0xEE]

/-- The files with a single one, which saves a machine with seventeen pending calls. -/
def tooDeep : FileTree :=
  ⟨[(["deep", "work"], .file (Machine.pendingCalls 17).toJson.toUTF8)]⟩

/-- A saved machine that is refused leaves nothing, and three requested cycles leave the first. -/
theorem failed_command_atomic_returningNowhere :
    (∃ after fault, (returningNowhere.execute (m := StateM FileTree) (.load "deep")).run tooDeep
        = ((after, .error fault), tooDeep) ∧ after = returningNowhere) ∧
      ∃ after cause, (returningNowhere.execute (m := StateM FileTree) (.step 3)).run tooDeep
          = ((after, .error (.machine cause)), tooDeep) ∧
        ∃ j < 3, after = { returningNowhere with machine := returningNowhere.machine.after j } := by
  have hfits : returningNowhere.program.length ≤ maxProgramSize := by decide
  constructor
  · have hheld : Holds tooDeep "deep" (Machine.pendingCalls 17).toJson.toUTF8 := rfl
    have hsaved : Snapshot.ofJson (Machine.pendingCalls 17).toJson
        = .ok (Machine.pendingCalls 17) := by
      rw [← Snapshot.text_document, Snapshot.ofJson_document]
    have hdeep : stackDepth < (Machine.pendingCalls 17).stack.length := by decide
    have hload := run_load returningNowhere "deep" tooDeep
    rw [readText_of_holds hheld, restored_of_lt hsaved hdeep] at hload
    exact ⟨_, _, hload, (failed_command_atomic hfits hload).1 fun count ↦ nofun⟩
  · have hhalt : (returningNowhere.stepped 3).halt = some (.faulted .stackUnderflow) := by
      decide +kernel
    have hstep : (returningNowhere.execute (m := StateM FileTree) (.step 3)).run tooDeep
        = (((returningNowhere.step 3).1, .error (.machine .stackUnderflow)), tooDeep) := by
      have hanswer : (returningNowhere.step 3).2 = .error (.machine .stackUnderflow) := by
        simp only [step, hhalt]
      exact (run_step returningNowhere 3 tooDeep).trans (Prod.ext (Prod.ext rfl hanswer) rfl)
    obtain ⟨j, hj, -, -, -, -, hafter⟩ := (failed_command_atomic hfits hstep).2 3 rfl
    exact ⟨_, _, hstep, j, hj, hafter⟩

end Files

end Debugger

end ChipEight
