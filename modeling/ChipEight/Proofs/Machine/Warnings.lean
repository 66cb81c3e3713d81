import ChipEight.Event
import ChipEight.Proofs.Machine.MemoryFaults
import ChipEight.Proofs.Machine.Operation

/-!
# Warnings

A cycle that fails is meant to leave a warning in the log. This holds as long as its word can be
fetched: whatever the instruction fails for, there is one warning, which names the fault, and a
cycle that succeeds leaves none. But a cycle that cannot fetch its word fails before anything is
logged, so at the last byte of memory and behind it a machine fails silently.

The warnings of a run are therefore its failures without those at such addresses. They are counted
operation by operation, and nothing but a cycle causes a warning.
-/

namespace ChipEight

def Event.isWarning (e : Event) : Bool := decide (e.level = .warn)

namespace Machine

def Fails (m : Machine) : Prop := ∃ fault, m.FailsWith fault

/-- The two bytes at the program counter are not both in memory. -/
def OutOfWords (m : Machine) : Prop := 0xFFE < m.pc.toNat

/-- The events of an operation. -/
def events (m : Machine) : Operation → List Event
  | .step => m.stepEvents
  | .reset => [.machineReset]
  | .load program => loadEvents program
  | .restore s => restoreEvents s
  | .tickTimers | .setKey .. => []

/-- The events of operations that are done one after the other. -/
def log : List Operation → Machine → List Event
  | [], _ => []
  | op :: ops, m => m.events op ++ log ops (m.apply op).2

/-- How many cycles among the operations begin with a machine of some kind. -/
def cyclesFrom (p : Machine → Prop) [DecidablePred p] : List Operation → Machine → ℕ
  | [], _ => 0
  | op :: ops, m => (if op = .step ∧ p m then 1 else 0) + cyclesFrom p ops (m.apply op).2

variable {m after : Machine} {outcome : Outcome} {fault : Fault} {w : UInt16}

theorem fails_iff : m.Fails ↔ (m.apply .step).1.toBool = false := by
  rw [apply]
  cases h : m.step with
  | ok outcome after => simp [Fails, FailsWith, h, Except.toBool]
  | error fault after => simp [Fails, FailsWith, h, Except.toBool]

instance : DecidablePred Fails := fun _ ↦ decidable_of_iff' _ fails_iff

instance : DecidablePred OutOfWords := fun m ↦ inferInstanceAs (Decidable (0xFFE < m.pc.toNat))

/-! ## The events of a cycle -/

theorem stepEvents_of_fetch_error (h : m.fetch = .error fault) : m.stepEvents = [] := by
  rw [stepEvents, h]

theorem stepEvents_of_fetch_ok (h : m.fetch = .ok w) :
    m.stepEvents = .executing (Instruction.decode w) m.pc w ::
      (m.refusal? (Instruction.decode w)).toList.map fun fault ↦
        .executionFailed fault m.pc w := by
  rw [stepEvents, h]
  dsimp only
  rw [Procedure.run_execute]
  cases hr : m.refusal? (Instruction.decode w) with
  | none =>
    rw [settle_of_none hr]
    rfl
  | some fault =>
    rw [settle_of_some hr]
    rfl

theorem outOfWords_iff : m.OutOfWords ↔ ∃ fault, m.fetch = .error fault := by
  constructor
  · intro hpc
    have hend : memorySize < m.pc.toNat + 2 := Nat.add_lt_add_right hpc 2
    exact ⟨_, fetch_eq_outsideMemory_iff.mpr ⟨hend, rfl⟩⟩
  · rintro ⟨fault, hfetch⟩
    refine Nat.lt_of_not_le fun hpc ↦ ?_
    rw [fetch_eq_ok_iff.mpr ⟨Nat.add_le_add_right hpc 2, rfl⟩] at hfetch
    cases hfetch

theorem not_outOfWords_of_fetch (h : m.fetch = .ok w) : ¬m.OutOfWords :=
  Nat.not_lt_of_le (atWord_of_fetch h).1

/-! ## Counting warnings -/

theorem countP_loadEvents (program : List UInt8) :
    (loadEvents program).countP Event.isWarning = 0 := by
  rw [loadEvents]
  split <;> rfl

theorem countP_restoreEvents (s : Snapshot) :
    (restoreEvents s).countP Event.isWarning = 0 := by
  rw [restoreEvents]
  split <;> rfl

/-- Every failed cycle causes a warning or is one that has no word to fetch, and nothing else
causes a warning. -/
theorem countP_events (m : Machine) (op : Operation) :
    (m.events op).countP Event.isWarning + (if op = .step ∧ m.OutOfWords then 1 else 0)
      = if op = .step ∧ m.Fails then 1 else 0 := by
  cases op with
  | step =>
    cases hfetch : m.fetch with
    | error fault =>
      have hout : m.OutOfWords := outOfWords_iff.mpr ⟨fault, hfetch⟩
      have hfails : m.Fails := ⟨fault, m, step_of_fetch_error hfetch⟩
      simp [events, stepEvents_of_fetch_error hfetch, hout, hfails]
    | ok w =>
      have hin : ¬m.OutOfWords := not_outOfWords_of_fetch hfetch
      rw [events, stepEvents_of_fetch_ok hfetch]
      cases hr : m.refusal? (Instruction.decode w) with
      | none =>
        have hfails : ¬m.Fails := by
          rintro ⟨fault, hfault⟩
          rw [failsWith_iff hfetch, hr] at hfault
          cases hfault
        simp [hin, hfails, Event.isWarning, Event.level]
      | some fault =>
        have hfails : m.Fails := ⟨fault, (failsWith_iff hfetch).mpr hr⟩
        simp [hin, hfails, Event.isWarning, Event.level]
  | load program => simp [events, countP_loadEvents]
  | restore s => simp [events, countP_restoreEvents]
  | tickTimers | setKey | reset => simp [events, Event.isWarning, Event.level]

theorem countP_log (ops : List Operation) (m : Machine) :
    (m.log ops).countP Event.isWarning + m.cyclesFrom OutOfWords ops = m.cyclesFrom Fails ops := by
  induction ops generalizing m with
  | nil => rfl
  | cons op ops ih =>
    have hfirst := m.countP_events op
    have hrest := ih (m.apply op).2
    rw [log, cyclesFrom, cyclesFrom, List.countP_append]
    omega

/-- **A warning for each failure behind the fetch.** A cycle that succeeds logs its instruction and
no warning. One that fails once its word has been fetched logs its instruction and one warning,
which tells the fault. One that has no word to fetch fails, and logs nothing.

So after any operations, the number of warnings falls short of the number of failed cycles by as
many cycles as had no word to fetch. -/
theorem warning_of_refusal (m : Machine) :
    (∀ outcome after, m.step = .ok outcome after →
      ∃ w, m.AtWord w ∧ m.stepEvents = [.executing (Instruction.decode w) m.pc w]) ∧
    (∀ fault after, m.step = .error fault after → m.pc.toNat ≤ 0xFFE →
      ∃ w, m.AtWord w ∧ m.stepEvents =
        [.executing (Instruction.decode w) m.pc w, .executionFailed fault m.pc w]) ∧
    (0xFFE < m.pc.toNat → m.Fails ∧ m.stepEvents = []) ∧
    ∀ ops, (m.log ops).countP Event.isWarning + m.cyclesFrom OutOfWords ops
      = m.cyclesFrom Fails ops := by
  refine ⟨fun outcome after hstep ↦ ?_, fun fault after hstep hpc ↦ ?_, fun hpc ↦ ?_,
    fun ops ↦ m.countP_log ops⟩
  · obtain ⟨w, hfetch, hrefusal, -⟩ := step_eq_ok_iff.mp hstep
    refine ⟨w, (atWord_of_fetch hfetch).2, ?_⟩
    rw [stepEvents_of_fetch_ok hfetch, hrefusal]
    rfl
  · obtain ⟨-, hfetch | ⟨w, hfetch, hrefusal⟩⟩ := step_eq_error_iff.mp hstep
    · exact absurd (outOfWords_iff.mpr ⟨fault, hfetch⟩) (Nat.not_lt_of_le hpc)
    · refine ⟨w, (atWord_of_fetch hfetch).2, ?_⟩
      rw [stepEvents_of_fetch_ok hfetch, hrefusal]
      rfl
  · obtain ⟨fault, hfetch⟩ := outOfWords_iff.mp hpc
    exact ⟨⟨fault, m, step_of_fetch_error hfetch⟩, stepEvents_of_fetch_error hfetch⟩

/-- A machine about to return from a call that was never made. -/
def returningTooSoon : Machine :=
  { powerOn ⟨0, 0⟩ with memory := Memory.zero.write programStart [0x00, 0xEE] }

/-- It fails as often as it is asked to go on, with one warning each time. -/
theorem warning_of_refusal_returningTooSoon :
    returningTooSoon.stepEvents =
      [.executing .ret 0x200 0x00EE, .executionFailed .stackUnderflow 0x200 0x00EE] ∧
    (returningTooSoon.log [.step, .setKey (.ofNat 3) true, .step]).countP Event.isWarning = 2 := by
  obtain ⟨-, hwarns, -, hcount⟩ := warning_of_refusal returningTooSoon
  have hfetch : returningTooSoon.fetch = .ok 0x00EE := fetch_eq_ok_iff.mpr (by decide +kernel)
  have hstep : returningTooSoon.step = .error .stackUnderflow returningTooSoon :=
    step_eq_error_iff.mpr ⟨rfl, .inr ⟨0x00EE, hfetch, by decide +kernel⟩⟩
  constructor
  · obtain ⟨w, hw, hevents⟩ := hwarns _ _ hstep (by decide)
    obtain rfl : w = 0x00EE := UInt16.toNat_inj.mp (hw.trans (atWord_of_fetch hfetch).2.symm)
    rw [hevents]
    rfl
  · have hfailed := hcount [.step, .setKey (.ofNat 3) true, .step]
    have hin : returningTooSoon.cyclesFrom OutOfWords [.step, .setKey (.ofNat 3) true, .step] = 0 :=
      by decide +kernel
    have htwo : returningTooSoon.cyclesFrom Fails [.step, .setKey (.ofNat 3) true, .step] = 2 := by
      decide +kernel
    omega

/-- A machine with a program that jumps to the last byte of memory. -/
def jumpingToTheEnd : Machine := ((powerOn ⟨0, 0⟩).load [0x1F, 0xFF]).1

/-- Its second cycle fails, and no warning tells of it. -/
theorem silent_failure :
    (jumpingToTheEnd.apply .step).2.FailsWith (.outsideMemory 0x1000) ∧
      jumpingToTheEnd.cyclesFrom Fails [.step, .step] = 1 ∧
      (jumpingToTheEnd.log [.step, .step]).countP Event.isWarning = 0 := by
  have hfetch : (jumpingToTheEnd.apply .step).2.fetch = .error (.outsideMemory 0x1000) :=
    fetch_eq_outsideMemory_iff.mpr (by decide +kernel)
  exact ⟨⟨_, step_of_fetch_error hfetch⟩, by decide +kernel, by decide +kernel⟩

end Machine

end ChipEight
