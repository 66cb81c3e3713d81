import ChipEight.Proofs.Machine.Refusals
import Mathlib.Order.Bounds.Basic

/-!
# Memory faults

A cycle needs certain bytes of memory: the two of its instruction, and those at `I` that the
instruction reads or writes. `Machine.Needs` says which ones they are without mentioning a check,
and this file compares it with the faults that cycles end with.

A fault of memory is nearly always due: it comes exactly if a needed byte lies outside memory, and
it tells the lowest one. The exception is a sprite without bytes. It needs nothing at `I`, but the
check on its block fails once `I` is behind the end of memory, and the address it tells is `I`.
-/

namespace ChipEight

/-- How many bytes at `I` an instruction reads or writes. -/
def Instruction.blockSize : Instruction → ℕ
  | .draw _ _ n => n.val
  | .storeDecimal _ => 3
  | .storeRegisters x | .loadRegisters x => x.val + 1
  | _ => 0

namespace Machine

/-- The addresses of the bytes that the next cycle reads or writes. There is nothing to be done at
`I` unless there is an instruction to do it. -/
inductive Needs (m : Machine) : ℕ → Prop
  | word {k : ℕ} : k < 2 → m.Needs (m.pc.toNat + k)
  | block {i : Instruction} {k : ℕ} :
      m.current? = some i → k < i.blockSize → m.Needs (m.index.toNat + k)

/-- The next cycle draws a sprite that has no bytes. -/
def DrawsNothing (m : Machine) : Prop :=
  ∃ x y n, m.current? = some (.draw x y n) ∧ n.val = 0

variable {m : Machine} {a : ℕ}

/-! ## Blocks -/

/-- The lowest byte of a block that lies outside memory. -/
theorem isLeast_outside_iff {start count : ℕ} :
    IsLeast {b | (∃ k < count, b = start + k) ∧ memorySize ≤ b} a ↔
      0 < count ∧ memorySize < start + count ∧ a = max start memorySize := by
  constructor
  · rintro ⟨⟨⟨k, hk, rfl⟩, hout⟩, hleast⟩
    refine ⟨by omega, by omega, ?_⟩
    -- the block reaches memory's end or begins behind it, and nothing lower is outside
    have hmax : start + k ≤ max start memorySize :=
      hleast ⟨⟨max start memorySize - start, by omega, by omega⟩, le_max_right _ _⟩
    omega
  · rintro ⟨hpos, hend, rfl⟩
    refine ⟨⟨⟨max start memorySize - start, by omega, by omega⟩, le_max_right _ _⟩, ?_⟩
    rintro b ⟨⟨k, -, rfl⟩, hout⟩
    exact max_le (Nat.le_add_right _ _) hout

theorem blockFault?_eq_some_iff {count : ℕ} :
    m.blockFault? count = some (.outsideMemory a) ↔
      memorySize < m.index.toNat + count ∧ a = max m.index.toNat memorySize := by
  rw [blockFault?]
  split
  · next h => simp [Nat.not_lt.mpr h]
  · next h => simp [Nat.lt_of_not_le h, eq_comm]

theorem keyFault?_ne_outsideMemory {x : Nibble} : m.keyFault? x ≠ some (.outsideMemory a) := by
  intro h
  cases (keyFault?_eq_some h).2

/-! ## Fetching and refusing -/

theorem fetch_eq_outsideMemory_iff :
    m.fetch = .error (.outsideMemory a) ↔
      memorySize < m.pc.toNat + 2 ∧ a = max m.pc.toNat memorySize := by
  rw [fetch, Memory.check]
  split
  · next h => simp [Nat.not_lt.mpr h, pure, Except.pure, bind, Except.bind]
  · next h => simp [Nat.lt_of_not_le h, bind, Except.bind, eq_comm]

/-- Which instructions are refused for want of memory: those whose block reaches behind the end of
memory, and sprites without bytes that begin there. -/
theorem refusal?_eq_outsideMemory_iff {i : Instruction} :
    m.refusal? i = some (.outsideMemory a) ↔
      (0 < i.blockSize ∨ ∃ x y n, i = .draw x y n) ∧
        memorySize < m.index.toNat + i.blockSize ∧ a = max m.index.toNat memorySize := by
  cases i with
  | draw x y n =>
    rw [refusal?, blockFault?_eq_some_iff]
    simp [Instruction.blockSize]
  | storeDecimal x =>
    rw [refusal?, blockFault?_eq_some_iff]
    simp [Instruction.blockSize]
  | storeRegisters x =>
    rw [refusal?, blockFault?_eq_some_iff]
    simp [Instruction.blockSize]
  | loadRegisters x =>
    rw [refusal?, blockFault?_eq_some_iff]
    simp [Instruction.blockSize]
  | skipPressed x => simp [refusal?, keyFault?_ne_outsideMemory, Instruction.blockSize]
  | skipNotPressed x => simp [refusal?, keyFault?_ne_outsideMemory, Instruction.blockSize]
  | _ => simp [refusal?, Instruction.blockSize]

/-! ## Needed bytes -/

theorem needs_iff_of_fetch_error {fault : Fault} (h : m.fetch = .error fault) {b : ℕ} :
    m.Needs b ↔ ∃ k < 2, b = m.pc.toNat + k := by
  constructor
  · rintro (⟨hk⟩ | ⟨hi, -⟩)
    · exact ⟨_, hk, rfl⟩
    · rw [current?_of_fetch_error h] at hi
      cases hi
  · rintro ⟨k, hk, rfl⟩
    exact .word hk

/-- What a cycle needs outside memory once its instruction has been fetched is in the block of that
instruction. -/
theorem needs_outside_iff_of_fetch_ok {word : UInt16} (h : m.fetch = .ok word) {b : ℕ} :
    (m.Needs b ∧ memorySize ≤ b) ↔
      (∃ k < (Instruction.decode word).blockSize, b = m.index.toNat + k) ∧ memorySize ≤ b := by
  have hpc : m.pc.toNat + 2 ≤ memorySize := (fetch_eq_ok_iff.mp h).1
  constructor
  · rintro ⟨⟨hk⟩ | ⟨hi, hk⟩, hout⟩
    · omega
    · rw [current?_of_fetch_ok h] at hi
      obtain rfl := Option.some.inj hi
      exact ⟨⟨_, hk, rfl⟩, hout⟩
  · rintro ⟨⟨k, hk, rfl⟩, hout⟩
    exact ⟨.block (current?_of_fetch_ok h) hk, hout⟩

theorem not_drawsNothing_of_fetch_error {fault : Fault} (h : m.fetch = .error fault) :
    ¬m.DrawsNothing := by
  rintro ⟨x, y, n, hi, -⟩
  rw [current?_of_fetch_error h] at hi
  cases hi

theorem drawsNothing_iff_of_fetch_ok {word : UInt16} (h : m.fetch = .ok word) :
    m.DrawsNothing ↔ (Instruction.decode word).blockSize = 0 ∧
      ∃ x y n, Instruction.decode word = .draw x y n := by
  rw [DrawsNothing, current?_of_fetch_ok h]
  constructor
  · rintro ⟨x, y, n, hi, hn⟩
    have hi := Option.some.inj hi
    exact ⟨by rw [hi]; exact hn, x, y, n, hi⟩
  · rintro ⟨hsize, x, y, n, hi⟩
    rw [hi] at hsize
    exact ⟨x, y, n, congrArg some hi, hsize⟩

/-! ## Faults -/

theorem step_outside_iff_of_fetch_error {fault : Fault} (h : m.fetch = .error fault) :
    (∃ after, m.step = .error (.outsideMemory a) after) ↔
      IsLeast {b | m.Needs b ∧ memorySize ≤ b} a := by
  simp only [needs_iff_of_fetch_error h, isLeast_outside_iff]
  constructor
  · rintro ⟨after, hstep⟩
    obtain ⟨-, hfetch | ⟨word, hword, -⟩⟩ := step_eq_error_iff.mp hstep
    · exact ⟨Nat.two_pos, fetch_eq_outsideMemory_iff.mp hfetch⟩
    · rw [h] at hword
      cases hword
  · rintro ⟨-, hout⟩
    exact ⟨m, step_of_fetch_error (fetch_eq_outsideMemory_iff.mpr hout)⟩

theorem step_outside_iff_of_fetch_ok {word : UInt16} (h : m.fetch = .ok word) :
    (∃ after, m.step = .error (.outsideMemory a) after) ↔
      m.refusal? (Instruction.decode word) = some (.outsideMemory a) :=
  failsWith_iff h

/-- **When memory faults.** A cycle fails for want of memory exactly if it needs a byte outside
memory, and it tells the lowest such byte; but it also fails if it draws a sprite without bytes
while `I` is behind the end of memory, and then it tells `I`. -/
theorem memory_fault_iff (m : Machine) (a : ℕ) :
    (∃ after, m.step = .error (.outsideMemory a) after) ↔
      IsLeast {b | m.Needs b ∧ memorySize ≤ b} a ∨
        m.DrawsNothing ∧ memorySize < m.index.toNat ∧ a = m.index.toNat := by
  cases hf : m.fetch with
  | error fault =>
    rw [step_outside_iff_of_fetch_error hf]
    simp [not_drawsNothing_of_fetch_error hf]
  | ok word =>
    rw [step_outside_iff_of_fetch_ok hf, refusal?_eq_outsideMemory_iff]
    simp only [needs_outside_iff_of_fetch_ok hf, isLeast_outside_iff,
      drawsNothing_iff_of_fetch_ok hf]
    by_cases hsize : (Instruction.decode word).blockSize = 0
    · -- without a block there is only the sprite that has none
      rw [hsize, Nat.add_zero]
      constructor
      · rintro ⟨hdraw, hout, rfl⟩
        have hdraw := hdraw.resolve_left (lt_irrefl 0)
        exact .inr ⟨⟨rfl, hdraw⟩, hout, max_eq_left hout.le⟩
      · rintro (⟨hpos, -⟩ | ⟨⟨-, hdraw⟩, hout, rfl⟩)
        · exact absurd hpos (lt_irrefl 0)
        · exact ⟨.inr hdraw, hout, (max_eq_left hout.le).symm⟩
    · have hpos := Nat.pos_of_ne_zero hsize
      constructor
      · rintro ⟨-, hout⟩
        exact .inl ⟨hpos, hout⟩
      · rintro (⟨-, hout⟩ | ⟨⟨hzero, -⟩, -⟩)
        · exact ⟨.inl hpos, hout⟩
        · exact absurd hzero hsize

/-- A machine about to draw no bytes from two behind the last byte of memory. -/
def drawingNothing : Machine :=
  { powerOn ⟨0, 0⟩ with memory := Memory.zero.write programStart [0xD0, 0x10], index := 0x1001 }

theorem fetch_drawingNothing : drawingNothing.fetch = .ok 0xD010 :=
  fetch_eq_ok_iff.mpr (by decide +kernel)

/-- It needs no byte outside memory, and nevertheless its cycle fails for want of one. -/
theorem needless_memory_fault :
    (∀ b, drawingNothing.Needs b → b < memorySize) ∧
      drawingNothing.step = .error (.outsideMemory 0x1001) drawingNothing := by
  constructor
  · intro b hb
    by_contra hout
    obtain ⟨⟨k, hk, -⟩, -⟩ :=
      (needs_outside_iff_of_fetch_ok fetch_drawingNothing).mp ⟨hb, Nat.le_of_not_lt hout⟩
    have hsize : (Instruction.decode 0xD010).blockSize = 0 := by decide
    omega
  · exact step_eq_error_iff.mpr ⟨rfl, .inr ⟨0xD010, fetch_drawingNothing, by decide⟩⟩

end Machine

end ChipEight
