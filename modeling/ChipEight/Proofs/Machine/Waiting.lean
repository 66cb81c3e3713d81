import ChipEight.Proofs.Machine.Frame
import ChipEight.Proofs.Machine.Timers
import ChipEight.Proofs.Machine.Transaction
import Mathlib.Order.Bounds.Basic

/-!
# Waiting for a key

The instruction `Fx0A` waits for a key without stopping the clock: as long as no key is pressed,
every cycle succeeds, counts the timers down and comes back to the instruction. This file follows
such a wait to its end, whatever its length. A machine that has waited is still at the instruction,
and so is one whose keys have been changed since; the first cycle that finds a key pressed moves on.

Keys are looked at in ascending order and the last one that is found pressed is taken. So of several
keys the greatest one wins, in whatever order they were pressed.
-/

namespace ChipEight

namespace Machine

/-- The machine with both timers counted down `n` times. -/
def waited (m : Machine) (n : ℕ) : Machine :=
  { m with delay := .ofNat (m.delay.toNat - n), sound := .ofNat (m.sound.toNat - n) }

def setKeys (m : Machine) (changes : List (Nibble × Bool)) : Machine :=
  changes.foldl (fun m change ↦ m.setKey change.1 change.2) m

variable {m : Machine} {r key : Nibble}

/-! ## Timers -/

theorem toNat_timer_waited (m : Machine) (n : ℕ) (t : Timer) :
    ((m.waited n).timer t).toNat = (m.timer t).toNat - n := by
  have hcount (b : UInt8) : (UInt8.ofNat (b.toNat - n)).toNat = b.toNat - n := by
    have hb := b.toNat_lt
    rw [UInt8.toNat_ofNat']
    exact Nat.mod_eq_of_lt (by omega)
  cases t
  · exact hcount m.delay
  · exact hcount m.sound

theorem waited_zero (m : Machine) : m.waited 0 = m := by
  rw [waited, Nat.sub_zero, Nat.sub_zero, UInt8.ofNat_toNat, UInt8.ofNat_toNat]

theorem waited_tickTimers (m : Machine) (n : ℕ) : m.tickTimers.waited n = m.waited (n + 1) := by
  have hdelay : m.tickTimers.delay.toNat = m.delay.toNat - 1 := m.toNat_timer_tickTimers .delay
  have hsound : m.tickTimers.sound.toNat = m.sound.toNat - 1 := m.toNat_timer_tickTimers .sound
  rw [waited, hdelay, hsound, Nat.sub_sub, Nat.sub_sub, Nat.add_comm 1 n]
  rfl

/-! ## Keys -/

theorem setKeys_eq (m : Machine) (changes : List (Nibble × Bool)) :
    m.setKeys changes = { m with keypad := (m.setKeys changes).keypad } := by
  induction changes generalizing m with
  | nil => rfl
  | cons change changes ih => exact ih (m.setKey change.1 change.2)

theorem isGreatest_of_getLast?_pressed (h : m.pressed.getLast? = some key) :
    IsGreatest {k | m.isPressed k = true} key := by
  obtain ⟨lower, hpressed⟩ := List.getLast?_eq_some_iff.mp h
  have hmem (k : Nibble) : m.isPressed k = true ↔ k ∈ lower ++ [key] := by
    rw [← hpressed, pressed, List.mem_filter]
    exact (and_iff_right (List.mem_finRange k)).symm
  have hsorted : (lower ++ [key]).Pairwise (· < ·) := by
    rw [← hpressed]
    exact (List.pairwise_lt_finRange 16).filter _
  constructor
  · exact (hmem key).mpr List.mem_concat_self
  · intro k hk
    rcases List.mem_append.mp ((hmem k).mp hk) with hlower | hkey
    · exact Fin.le_of_lt ((List.pairwise_append.mp hsorted).2.2 k hlower key List.mem_cons_self)
    · obtain rfl := List.mem_singleton.mp hkey
      exact Fin.le_refl k

/-! ## Cycles that wait, and the one that does not -/

/-- Neither the timers nor the keys matter for where a machine stands. -/
theorem StandsAt.setKeys_waited {i : Instruction} (h : m.StandsAt i) (n : ℕ)
    (changes : List (Nibble × Bool)) : ((m.waited n).setKeys changes).StandsAt i := by
  rw [setKeys_eq]
  exact h

/-- A cycle without a key comes back to the instruction and changes the timers alone. -/
theorem step_of_no_key (h : m.StandsAt (.awaitKey r)) (hnone : ∀ key, m.isPressed key = false) :
    m.step = .ok .awaitingKey m.tickTimers := by
  have hcommit : m.commit (.awaitKey r) = (m, .awaitingKey) := by
    rcases m.commit_awaitKey r with ⟨b, -, hsome⟩ | ⟨hcommit, -⟩
    · exact absurd hnone hsome
    · exact hcommit
  exact h.step_eq_ok_iff.mpr ⟨rfl, congrArg (·.2) hcommit, congrArg (·.1.tickTimers) hcommit⟩

theorem attempts_of_no_key (h : m.StandsAt (.awaitKey r)) (hnone : ∀ key, m.isPressed key = false)
    (n : ℕ) : m.attempts n = (List.replicate n (.ok .awaitingKey), m.waited n) := by
  induction n generalizing m with
  | zero => rw [attempts, waited_zero, List.replicate_zero]
  | succ n ih =>
    -- the machine that has ticked is where it was, with the same keys
    have hrest : m.tickTimers.attempts n
        = (List.replicate n (.ok .awaitingKey), m.tickTimers.waited n) :=
      ih h hnone
    rw [attempts, step_of_no_key h hnone]
    dsimp only
    rw [hrest, waited_tickTimers, List.replicate_succ]

/-- A cycle with a key puts the greatest one into the register and moves on. -/
theorem exists_step_of_key (h : m.StandsAt (.awaitKey r)) (hkey : m.isPressed key = true) :
    ∃ greatest, IsGreatest {k | m.isPressed k = true} greatest ∧
      m.step = .ok .proceed (m.advance.setReg r greatest.toByte).tickTimers := by
  cases hlast : m.pressed.getLast? with
  | none =>
    have hfree := getLast?_pressed_eq_none_iff.mp hlast key
    exact absurd hkey (Bool.eq_false_iff.mp hfree)
  | some greatest =>
    have hcommit : m.commit (.awaitKey r)
        = (m.advance.setReg r greatest.toByte, .proceed) := by
      rw [commit, hlast]
    exact ⟨greatest, isGreatest_of_getLast?_pressed hlast, h.step_eq_ok_iff.mpr
      ⟨rfl, congrArg (·.2) hcommit, congrArg (·.1.tickTimers) hcommit⟩⟩

/-- **A key is awaited until there is one.** A machine at an instruction `Fx0A` with no key pressed
waits for any number of cycles; each of them says so, and they change nothing but the timers, which
they count down. After any such wait, and after any changes of keys that leave a key pressed, the
next cycle goes on: it puts the greatest of the pressed keys into `Vx`, moves to the next
instruction, counts the timers down and changes nothing else. -/
theorem waits_until_pressed (h : m.StandsAt (.awaitKey r)) :
    (∀ n, (∀ key, m.isPressed key = false) →
      m.attempts n = (List.replicate n (.ok .awaitingKey), m.waited n) ∧
        ∀ t, ((m.waited n).timer t).toNat = (m.timer t).toNat - n) ∧
    ∀ n changes held, held = (m.waited n).setKeys changes → (∃ key, held.isPressed key = true) →
      ∃ greatest after, IsGreatest {key | held.isPressed key = true} greatest ∧
        held.step = .ok .proceed after ∧ (after.reg r).toNat = greatest.val ∧
        (∀ k, k ≠ r → after.reg k = held.reg k) ∧ after.pc.toNat = held.pc.toNat + 2 ∧
        after = { held.tickTimers with v := after.v, pc := after.pc } := by
  constructor
  · intro n hnone
    exact ⟨attempts_of_no_key h hnone n, m.toNat_timer_waited n⟩
  · rintro n changes held rfl ⟨key, hkey⟩
    have hheld := h.setKeys_waited n changes
    obtain ⟨greatest, hgreatest, hstep⟩ := exists_step_of_key hheld hkey
    refine ⟨greatest, _, hgreatest, hstep, ?_, fun k hk ↦ ?_, ?_, rfl⟩
    · exact (congrArg UInt8.toNat (reg_setReg_self _ _ _)).trans greatest.toNat_toByte
    · exact reg_setReg_of_ne _ _ hk
    · exact toNat_next (Nat.le_trans hheld.1 (by decide))

/-- A machine about to wait for a key while both timers run. -/
def awaitingKey : Machine :=
  { powerOn ⟨0, 0⟩ with
    memory := Memory.zero.write programStart [0xF5, 0x0A]
    delay := 2
    sound := 9 }

/-- Two keys are pressed and kept, a third is pressed and released. -/
def keysPressed : List (Nibble × Bool) :=
  [(.ofNat 0x9, true), (.ofNat 0x2, true), (.ofNat 0xC, true), (.ofNat 0xC, false)]

/-- Three cycles run the delay timer out, and the fourth takes the greater of the two keys. -/
theorem waits_until_pressed_threeCycles :
    awaitingKey.attempts 3 = (List.replicate 3 (.ok .awaitingKey), awaitingKey.waited 3) ∧
      ((awaitingKey.waited 3).timer .delay).toNat = 0 ∧
      ((awaitingKey.waited 3).timer .sound).toNat = 6 ∧
      ∃ after, ((awaitingKey.waited 3).setKeys keysPressed).step = .ok .proceed after ∧
        (after.reg (.ofNat 5)).toNat = 9 ∧ after.pc.toNat = 0x202 := by
  have hstands : awaitingKey.StandsAt (.awaitKey (.ofNat 5)) :=
    ⟨by decide, 0xF50A, by decide +kernel, by decide, by decide, by decide⟩
  obtain ⟨hwaits, hgoesOn⟩ := waits_until_pressed hstands
  obtain ⟨hattempts, htimers⟩ := hwaits 3 (by decide)
  obtain ⟨greatest, after, hgreatest, hstep, hreg, -, hpc, -⟩ :=
    hgoesOn 3 keysPressed _ rfl ⟨.ofNat 2, by decide +kernel⟩
  have hnine : greatest = .ofNat 9 := by
    have hupper : ∀ key, ((awaitingKey.waited 3).setKeys keysPressed).isPressed key = true →
        key ≤ .ofNat 9 := by
      decide +kernel
    exact Fin.le_antisymm (hupper greatest hgreatest.1)
      (hgreatest.2 (show _ = true by decide +kernel))
  refine ⟨hattempts, htimers .delay, htimers .sound, after, hstep, ?_, hpc⟩
  rw [hreg, hnine]
  rfl

end Machine

end ChipEight
