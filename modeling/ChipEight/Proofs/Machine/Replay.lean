import ChipEight.Proofs.Machine.Operation
import ChipEight.Proofs.Snapshot.Restoring

/-!
# Replays

Two machines with equal snapshots may have different random sources, and a snapshot does not show
which. They can be told apart only by an instruction that keeps bits of a random byte. This file
proves it for operations of every kind, in any number: until such an instruction is executed, the
two answer alike, fail alike and have equal snapshots after every operation.

Equal snapshots are the invariant. One operation preserves them unless it reveals random bits, and
whether it does can be read off the snapshot; so a silent run of one machine is a silent run of the
other.
-/

namespace ChipEight

/-- Whether the bits that an instruction keeps of a random byte are any at all. -/
def Instruction.keepsRandom : Instruction → Bool
  | .random _ nn => nn != 0
  | _ => false

namespace Machine

/-- Whether an operation executes an instruction that keeps bits of a random byte. -/
def reveals (m : Machine) : Operation → Bool
  | .step => m.current?.any Instruction.keepsRandom
  | _ => false

/-- None of the operations reveals random bits. -/
def Silent : List Operation → Machine → Prop
  | [], _ => True
  | op :: ops, m => m.reveals op = false ∧ Silent ops (m.apply op).2

instance decidableSilent : (ops : List Operation) → (m : Machine) → Decidable (m.Silent ops)
  | [], _ => .isTrue trivial
  | op :: ops, m =>
    have := decidableSilent ops (m.apply op).2
    inferInstanceAs (Decidable (m.reveals op = false ∧ Silent ops (m.apply op).2))

def withRandom (m : Machine) (random : RandomSource) : Machine := { m with random }

variable {m n : Machine} {op : Operation} {random : RandomSource}

/-! ## Random sources -/

theorem fetch_withRandom : (m.withRandom random).fetch = m.fetch := rfl

theorem refusal?_withRandom (i : Instruction) :
    (m.withRandom random).refusal? i = m.refusal? i := by
  cases i <;> rfl

/-- Equal snapshots leave nothing open but the random source. -/
theorem eq_withRandom (h : m.snapshot = n.snapshot) : n = m.withRandom n.random := by
  have hn : n.Agrees m.snapshot := h ▸ agrees_snapshot n
  exact (agrees_snapshot m).eq_of_agrees hn

theorem commit_withRandom (m : Machine) (random : RandomSource) {i : Instruction}
    (h : i.keepsRandom = false) :
    ((m.withRandom random).commit i).2 = (m.commit i).2 ∧
      ((m.withRandom random).commit i).1.snapshot = (m.commit i).1.snapshot := by
  cases i with
  | random x nn =>
    -- a byte is drawn from both sources, but none of it is kept
    obtain rfl : nn = 0 := by simpa [Instruction.keepsRandom] using h
    refine ⟨rfl, ?_⟩
    simp only [commit, UInt8.and_zero]
    rfl
  | arith op x y => cases op <;> exact ⟨rfl, rfl⟩
  | awaitKey x =>
    have hpressed : (m.withRandom random).pressed = m.pressed := rfl
    rw [commit, commit, hpressed]
    cases m.pressed.getLast? <;> exact ⟨rfl, rfl⟩
  | _ => exact ⟨rfl, rfl⟩

/-! ## One operation -/

theorem reveals_withRandom : (m.withRandom random).reveals op = m.reveals op := by
  cases op <;> rfl

theorem snapshot_tickTimers (h : m.snapshot = n.snapshot) :
    m.tickTimers.snapshot = n.tickTimers.snapshot := by
  rw [eq_withRandom h]
  rfl

theorem observe_step (hsilent : m.reveals .step = false) :
    (m.withRandom random).observe .step = m.observe .step := by
  cases hf : m.fetch with
  | error fault =>
    rw [observe, observe, apply_step_of_fetch_error hf,
      apply_step_of_fetch_error (fetch_withRandom.trans hf)]
    rfl
  | ok word =>
    cases hr : m.refusal? (Instruction.decode word) with
    | some fault =>
      rw [observe, observe, apply_step_of_refusal hf hr, apply_step_of_refusal
        (fetch_withRandom.trans hf) ((refusal?_withRandom _).trans hr)]
      rfl
    | none =>
      have hkeeps : (Instruction.decode word).keepsRandom = false := by
        simpa [reveals, current?_of_fetch_ok hf] using hsilent
      obtain ⟨houtcome, hsnapshot⟩ := commit_withRandom m random hkeeps
      rw [observe, observe, apply_step_of_commit hf hr, apply_step_of_commit
        (fetch_withRandom.trans hf) ((refusal?_withRandom _).trans hr), houtcome,
        snapshot_tickTimers hsnapshot]

theorem observe_restore (s : Snapshot) :
    (m.withRandom random).observe (.restore s) = m.observe (.restore s) := by
  rcases Nat.lt_or_ge stackDepth s.stack.length with hdeep | hdepth
  · rw [observe, observe, apply, apply, restore_of_lt _ hdeep, restore_of_lt _ hdeep]
    rfl
  · obtain ⟨after, hafter, hagrees, -⟩ := restore_of_le m hdepth
    obtain ⟨other, hother, hagrees', -⟩ := restore_of_le (m.withRandom random) hdepth
    rw [observe, observe, apply, apply, hafter, hother]
    simp only [hagrees.snapshot_eq, hagrees'.snapshot_eq]

/-- **One operation.** Machines with equal snapshots answer alike and have equal snapshots again, if
the operation reveals no random bits. -/
theorem observe_eq (h : m.snapshot = n.snapshot) (hsilent : m.reveals op = false) :
    n.observe op = m.observe op := by
  rw [eq_withRandom h]
  cases op with
  | step => exact observe_step hsilent
  | restore s => exact observe_restore s
  | load program =>
    rw [observe, observe, apply, apply, load, load]
    split <;> rfl
  | _ => rfl

/-! ## Many operations -/

theorem transcript_eq_of_silent {ops : List Operation} (h : m.snapshot = n.snapshot)
    (hsilent : m.Silent ops) : n.transcript ops = m.transcript ops ∧ n.Silent ops := by
  induction ops generalizing m n with
  | nil => exact ⟨rfl, trivial⟩
  | cons op ops ih =>
    obtain ⟨hop, hops⟩ := hsilent
    have hseen := observe_eq h hop
    have hnext : (m.apply op).2.snapshot = (n.apply op).2.snapshot :=
      (congrArg Prod.snd hseen).symm
    obtain ⟨htranscript, hother⟩ := ih hnext hops
    refine ⟨?_, ?_, hother⟩
    · rw [transcript, transcript, hseen, htranscript]
    · rw [eq_withRandom h, reveals_withRandom]
      exact hop

/-- **Replays agree.** Machines with equal snapshots, whatever their random sources, answer alike
and have equal snapshots after every operation, as long as none of the operations executes an
instruction that keeps bits of a random byte. Then neither machine does. -/
theorem replay_agrees {m n : Machine} (h : m.snapshot = n.snapshot) (ops : List Operation)
    (count : ℕ) (hsilent : m.Silent (ops.take count)) :
    (n.transcript ops).take count = (m.transcript ops).take count ∧ n.Silent (ops.take count) := by
  rw [transcript_take, transcript_take]
  exact transcript_eq_of_silent h hsilent

/-- A cycle that fails, a program, and the cycles of its three instructions: the first draws a byte
and keeps nothing of it, the second waits until a key is pressed, the third keeps a byte. -/
def sevenOperations : List Operation :=
  [.step, .load [0xC0, 0x00, 0xF1, 0x0A, 0xC2, 0xFF], .step, .step, .setKey (.ofNat 3) true, .step,
    .step]

/-- Two seeds cannot be told apart by the first six of these operations; the seventh reveals random
bits. -/
theorem replay_agrees_sevenOperations :
    ((powerOn ⟨2, 0⟩).transcript sevenOperations).take 6
        = ((powerOn ⟨1, 0⟩).transcript sevenOperations).take 6 ∧
      ¬(powerOn ⟨1, 0⟩).Silent sevenOperations := by
  have hsnapshot : (powerOn ⟨1, 0⟩).snapshot = (powerOn ⟨2, 0⟩).snapshot := by
    simp only [powerOn, snapshot]
  have hsilent : (powerOn ⟨1, 0⟩).Silent (sevenOperations.take 6) := by decide +kernel
  refine ⟨(replay_agrees hsnapshot sevenOperations 6 hsilent).1, ?_⟩
  decide +kernel

end Machine

end ChipEight
