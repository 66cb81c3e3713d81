import ChipEight.Proofs.Display.Packing
import ChipEight.Snapshot

/-!
# Restored machines

A snapshot lists what a machine holds, in forms of its own: pending calls the other way round, and
the display as packed rows. `Machine.Agrees` says item by item when the two are about the same
state, with the display compared pixel by pixel in both directions.

Taking a snapshot and restoring one are two ways to bring this agreement about. Since a snapshot
leaves nothing open but the random source, they are inverse. A snapshot with more pending calls than
the machine supports is refused before anything is written.
-/

namespace ChipEight

namespace Machine

open Display

/-- A machine and a snapshot are about the same state. -/
structure Agrees (m : Machine) (s : Snapshot) : Prop where
  pc : m.pc = s.pc
  index : m.index = s.index
  v : m.v = s.v
  /-- The innermost call comes first in a machine and last in a snapshot. -/
  stack : m.calls = s.stack.reverse
  delay : m.delay = s.delay
  sound : m.sound = s.sound
  memory : m.memory = s.memory
  /-- The rows of the snapshot are the packed pixels of the machine. -/
  rows : ∀ y, s.display.get y = packRow fun x ↦ m.display.pixel x y
  /-- The pixels of the machine are those of the unpacked rows. -/
  pixels : ∀ x y, m.display.pixel x y = unpackRow (s.display.get y) x
  keypad : m.keypad = s.keypad

variable {m n : Machine} {s : Snapshot}

/-! ## Agreement -/

theorem agrees_snapshot (m : Machine) : m.Agrees m.snapshot where
  pc := rfl
  index := rfl
  v := rfl
  stack := m.calls.reverse_reverse.symm
  delay := rfl
  sound := rfl
  memory := rfl
  rows y := (packRow_pixel m.display y).symm
  pixels x y := (unpackRow_get m.display x y).symm
  keypad := rfl

/-- A snapshot leaves nothing open but the random source. -/
theorem Agrees.eq_of_agrees (hm : m.Agrees s) (hn : n.Agrees s) :
    n = { m with random := n.random } := by
  have hpc := hn.pc.trans hm.pc.symm
  have hindex := hn.index.trans hm.index.symm
  have hv := hn.v.trans hm.v.symm
  have hcalls := hn.stack.trans hm.stack.symm
  have hdelay := hn.delay.trans hm.delay.symm
  have hsound := hn.sound.trans hm.sound.symm
  have hmemory := hn.memory.trans hm.memory.symm
  have hdisplay : n.display = m.display :=
    ext_pixel fun x y ↦ (hn.pixels x y).trans (hm.pixels x y).symm
  have hkeypad := hn.keypad.trans hm.keypad.symm
  cases n
  cases m
  simp_all

theorem Agrees.snapshot_eq (h : m.Agrees s) : m.snapshot = s := by
  have hstack : m.snapshot.stack = s.stack := by
    rw [snapshot, h.stack, List.reverse_reverse]
  have hdisplay : m.snapshot.display = s.display := by
    refine ext_pixel fun x y ↦ ?_
    rw [← unpackRow_get s.display, ← h.pixels]
    rfl
  cases s
  simp_all [snapshot, h.pc, h.index, h.v, h.delay, h.sound, h.memory, h.keypad]

/-! ## Restoring -/

theorem length_stack_snapshot (m : Machine) : m.snapshot.stack.length = m.calls.length :=
  List.length_reverse

/-- A snapshot that is not refused is agreed with afterwards. -/
theorem restore_of_le (m : Machine) (h : s.stack.length ≤ stackDepth) :
    ∃ after, m.restore s = .ok () after ∧ after.Agrees s ∧ after.random = m.random := by
  have hrestore : m.restore s = .ok ()
      ⟨s.memory, s.display, s.pc, s.index, s.v, s.stack.reverse, s.delay, s.sound, s.keypad,
        m.random⟩ := by
    rw [restore, Procedure.restore, if_neg (Nat.not_lt.mpr h)]
    rfl
  refine ⟨_, hrestore, ?_, rfl⟩
  exact
    { pc := rfl
      index := rfl
      v := rfl
      stack := rfl
      delay := rfl
      sound := rfl
      memory := rfl
      rows := fun y ↦ (packRow_pixel s.display y).symm
      pixels := fun x y ↦ (unpackRow_get s.display x y).symm
      keypad := rfl }

theorem restore_of_lt (m : Machine) (h : stackDepth < s.stack.length) :
    m.restore s = .error (.stackTooDeep s.stack.length) m := by
  rw [restore, Procedure.restore, if_pos h]
  rfl

/-- **Snapshots and restoring are inverse.** A machine agrees with its snapshot. A snapshot with no
more pending calls than the machine supports can be restored, the machine agrees with it then, and
its snapshot is the same again. The snapshot of a machine makes every other machine the same but for
the random source, pixel by pixel. A snapshot with more pending calls is refused, and the machine is
left as it was. -/
theorem restore_inverse (m : Machine) :
    m.Agrees m.snapshot ∧
    (∀ s : Snapshot, s.stack.length ≤ stackDepth →
      ∃ after, m.restore s = .ok () after ∧ after.snapshot = s ∧ after.Agrees s ∧
        after.random = m.random) ∧
    (∀ other : Machine, m.calls.length ≤ stackDepth →
      ∃ after, other.restore m.snapshot = .ok () after ∧
        after = { m with random := other.random } ∧
        ∀ x y, after.display.pixel x y = m.display.pixel x y) ∧
    ∀ s : Snapshot, stackDepth < s.stack.length →
      m.restore s = .error (.stackTooDeep s.stack.length) m := by
  refine ⟨agrees_snapshot m, ?_, ?_, fun s ↦ restore_of_lt m⟩
  · intro s hs
    obtain ⟨after, hrestore, hagrees, hrandom⟩ := restore_of_le m hs
    exact ⟨after, hrestore, hagrees.snapshot_eq, hagrees, hrandom⟩
  · intro other hm
    have hdepth : m.snapshot.stack.length ≤ stackDepth := by
      rw [length_stack_snapshot]
      exact hm
    obtain ⟨after, hrestore, hagrees, hrandom⟩ := restore_of_le other hdepth
    have hafter := (agrees_snapshot m).eq_of_agrees hagrees
    rw [hrandom] at hafter
    refine ⟨after, hrestore, hafter, fun x y ↦ ?_⟩
    rw [hafter]

/-- The snapshot of a machine after power-on, but with so many pending calls. -/
def pendingCalls (count : ℕ) : Snapshot :=
  { (powerOn ⟨0, 0⟩).snapshot with stack := List.replicate count 0x200 }

/-- Sixteen pending calls are restored, by every machine alike, and seventeen are refused. -/
theorem restore_inverse_pendingCalls :
    (∃ after, (powerOn ⟨1, 0⟩).restore (pendingCalls 16) = .ok () after ∧
      after.snapshot = pendingCalls 16 ∧
      ∃ other, (powerOn ⟨2, 0⟩).restore after.snapshot = .ok () other ∧
        other = { after with random := ⟨2, 0⟩ }) ∧
    (powerOn ⟨1, 0⟩).restore (pendingCalls 17) = .error (.stackTooDeep 17) (powerOn ⟨1, 0⟩) := by
  obtain ⟨-, hrestore, -, hrefuse⟩ := restore_inverse (powerOn ⟨1, 0⟩)
  obtain ⟨after, hafter, hsnapshot, hagrees, -⟩ := hrestore (pendingCalls 16) (by decide)
  have hcalls : after.calls.length ≤ stackDepth := by
    rw [hagrees.stack]
    decide
  obtain ⟨-, -, hother, -⟩ := restore_inverse after
  obtain ⟨other, hrestored, heq, -⟩ := hother (powerOn ⟨2, 0⟩) hcalls
  exact ⟨⟨after, hafter, hsnapshot, other, hrestored, heq⟩, hrefuse (pendingCalls 17) (by decide)⟩

end Machine

end ChipEight
