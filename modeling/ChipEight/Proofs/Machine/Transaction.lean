import ChipEight.Machine.Cycle

/-!
# A cycle as a transaction

A cycle writes to the machine step by step and may fail on the way. This file separates the two
halves of an instruction: `Machine.refusal?` is the fault it ends with, if any, read off the machine
before it, and `Machine.commit` is what it makes of a machine that does not refuse it. Neither knows
of the order of writes; `Procedure.run_execute` says that an instruction does the one or the other.

The equation is proved instruction by instruction, and it is the only place where the procedures are
opened. What a cycle does, and what it does not, is read off `commit` and `refusal?` afterwards.
-/

namespace ChipEight

open MonadExcept (ofExcept)

namespace Machine

/-! ## Registers -/

theorem reg_setReg_self (m : Machine) (x : Nibble) (b : UInt8) : (m.setReg x b).reg x = b :=
  Vector.getElem_set_self x.lt

theorem reg_setReg_of_ne (m : Machine) {x k : Nibble} (b : UInt8) (h : k ≠ x) :
    (m.setReg x b).reg k = m.reg k :=
  Vector.getElem_set_ne x.lt k.lt fun hc ↦ h (Fin.ext hc.symm)

/-! ## Addresses -/

/-- The program counter does not wrap around when it moves on from an address in memory, or from
what an offset jump leads to. -/
theorem toNat_next {a : UInt16} (h : a.toNat ≤ 0x1100) : (a + 2).toNat = a.toNat + 2 := by
  rw [UInt16.toNat_add]
  exact Nat.mod_eq_of_lt (by simp; omega)

/-- The sum that an offset jump forms does not wrap around. -/
theorem offset_add {nnn : UInt16} (h : nnn.toNat ≤ 0xFFF) (b : UInt8) :
    (nnn + b.toUInt16).toNat = nnn.toNat + b.toNat := by
  have := b.toNat_lt
  rw [UInt16.toNat_add, UInt8.toNat_toUInt16]
  exact Nat.mod_eq_of_lt (by omega)

/-! ## Refusing -/

/-- The fault of an access to the `count` bytes at `I`, if they do not all lie in memory. -/
def blockFault? (m : Machine) (count : Nat) : Option Fault :=
  if m.index.toNat + count ≤ memorySize then none
  else some (.outsideMemory (max m.index.toNat memorySize))

/-- The fault of a look at the key named by a register, if there is no such key. -/
def keyFault? (m : Machine) (x : Nibble) : Option Fault :=
  if (m.reg x).toNat < 16 then none else some (.noSuchKey (m.reg x))

/-- The fault that an instruction ends with, if it fails. -/
def refusal? (m : Machine) : Instruction → Option Fault
  | .ret => if m.calls = [] then some .stackUnderflow else none
  | .call _ => if stackDepth ≤ m.calls.length then some .stackOverflow else none
  | .addIndex x =>
    if 0x10000 ≤ m.index.toNat + (m.reg x).toNat then some (.indexOverflow m.index (m.reg x))
    else none
  | .draw _ _ n => m.blockFault? n.val
  | .skipPressed x | .skipNotPressed x => m.keyFault? x
  | .storeDecimal _ => m.blockFault? 3
  | .storeRegisters x | .loadRegisters x => m.blockFault? (x.val + 1)
  | .unknown word => some (.unknownInstruction word)
  | _ => none

/-! ## Committing -/

/-- Moves on to the next instruction. -/
def advance (m : Machine) : Machine := m.jump (m.pc + 2)

/-- Moves on to the next instruction, or past it if the condition holds. -/
def skip (m : Machine) (condition : Bool) : Machine :=
  m.jump (if condition then m.pc + 2 + 2 else m.pc + 2)

/-- Whether the key named by a register is there and pressed. -/
def pressedAt (m : Machine) (x : Nibble) : Bool := (Nibble.ofByte? (m.reg x)).any m.isPressed

/-- The machine that an instruction leaves and what it tells, if it does not fail. -/
def commit (m : Machine) : Instruction → Machine × Outcome
  | .clear => ({ m.advance with display := Display.blank }, .displayChanged)
  -- what was pushed is the place of the call, not of the instruction behind it
  | .ret => ({ m with calls := m.calls.tail, pc := m.calls.headD 0 + 2 }, .proceed)
  | .jump nnn => (m.jump nnn, .proceed)
  | .jumpOffset nnn => (m.jump (nnn + (m.reg (.ofNat 0)).toUInt16), .proceed)
  | .call nnn => ({ m with calls := m.pc :: m.calls, pc := nnn }, .proceed)
  | .skipEqualByte x nn => (m.skip (m.reg x == nn), .proceed)
  | .skipUnequalByte x nn => (m.skip (m.reg x != nn), .proceed)
  | .skipEqual x y => (m.skip (m.reg x == m.reg y), .proceed)
  | .skipUnequal x y => (m.skip (m.reg x != m.reg y), .proceed)
  | .setByte x nn => (m.advance.setReg x nn, .proceed)
  | .addByte x nn => (m.advance.setReg x (m.reg x + nn), .proceed)
  | .setIndex nnn => ({ m.advance with index := nnn }, .proceed)
  | .addIndex x => ({ m.advance with index := m.index + (m.reg x).toUInt16 }, .proceed)
  | .arith op x y =>
    let result := op.apply (m.reg x) (m.reg y)
    let written := m.advance.setReg x result.1
    -- the flag is written last, so it wins where it is the target itself
    (result.2.elim written fun bit ↦ written.setReg flag bit, .proceed)
  | .random x nn =>
    let drawn := m.random.next
    ({ m.advance.setReg x (drawn.1 &&& nn) with random := drawn.2 }, .proceed)
  | .draw x y n =>
    let drawn := m.display.draw (m.reg x).toNat (m.reg y).toNat (m.memory.block m.index.toNat n.val)
    ({ m.advance.setReg flag (if drawn.2 then 1 else 0) with display := drawn.1 }, .displayChanged)
  | .skipPressed x => (m.skip (m.pressedAt x), .proceed)
  | .skipNotPressed x => (m.skip (!m.pressedAt x), .proceed)
  | .awaitKey x =>
    match m.pressed.getLast? with
    | some key => (m.advance.setReg x key.toByte, .proceed)
    -- the program counter stays, so the next cycle looks again
    | none => (m, .awaitingKey)
  | .readDelay x => (m.advance.setReg x m.delay, .proceed)
  | .setDelay x => ({ m.advance with delay := m.reg x }, .proceed)
  | .setSound x => ({ m.advance with sound := m.reg x }, .proceed)
  | .pointGlyph x => ({ m.advance with index := (m.reg x).toUInt16 * Memory.glyphSize }, .proceed)
  | .storeDecimal x =>
    ({ m.advance with memory := m.memory.write m.index.toNat (decimalDigits (m.reg x)) }, .proceed)
  | .storeRegisters x =>
    ({ m.advance with memory := m.memory.write m.index.toNat (m.firstRegisters x) }, .proceed)
  | .loadRegisters x => ({ m.advance with v := m.fillRegisters x }, .proceed)
  | .unknown _ => (m, .proceed)

/-- What an instruction leaves alone, of all that only some instructions or none can change. -/
structure CommitFrame (m : Machine) (i : Instruction) : Prop where
  keypad : (m.commit i).1.keypad = m.keypad
  random : (∀ x nn, i ≠ .random x nn) → (m.commit i).1.random = m.random
  calls : i ≠ .ret → (∀ nnn, i ≠ .call nnn) → (m.commit i).1.calls = m.calls

theorem commit_frame (m : Machine) (i : Instruction) : m.CommitFrame i := by
  cases i with
  | ret => exact ⟨rfl, fun _ ↦ rfl, fun h ↦ absurd rfl h⟩
  | call nnn => exact ⟨rfl, fun _ ↦ rfl, fun _ h ↦ absurd rfl (h nnn)⟩
  | random x nn => exact ⟨rfl, fun h ↦ absurd rfl (h x nn), fun _ _ ↦ rfl⟩
  | arith op x y => cases op <;> exact ⟨rfl, fun _ ↦ rfl, fun _ _ ↦ rfl⟩
  | awaitKey x =>
    refine ⟨?_, fun _ ↦ ?_, fun _ _ ↦ ?_⟩
    -- the key is awaited or found, and neither touches anything else
    all_goals
      rw [commit]
      split <;> rfl
  | _ => exact ⟨rfl, fun _ ↦ rfl, fun _ _ ↦ rfl⟩

/-- What a procedure ends with that either refuses or commits. -/
def settle (m : Machine) (i : Instruction) : EStateM.Result Fault Machine Outcome :=
  match m.refusal? i with
  | some fault => .error fault m
  | none => .ok (m.commit i).2 (m.commit i).1

theorem settle_of_some {m : Machine} {i : Instruction} {fault : Fault}
    (h : m.refusal? i = some fault) : m.settle i = .error fault m := by
  rw [settle, h]

theorem settle_of_none {m : Machine} {i : Instruction} (h : m.refusal? i = none) :
    m.settle i = .ok (m.commit i).2 (m.commit i).1 := by
  rw [settle, h]

end Machine

/-! ## Running procedures -/

namespace Procedure

variable {α β : Type}

@[simp] theorem run_ofExcept_ok (a : α) (m : Machine) :
    (ofExcept (.ok a) : Procedure α).run m = .ok a m := rfl

@[simp] theorem run_ofExcept_error (fault : Fault) (m : Machine) :
    (ofExcept (.error fault) : Procedure α).run m = .error fault m := rfl

@[simp] theorem run_fail (fault : Fault) (m : Machine) :
    (throw fault : Procedure α).run m = .error fault m := rfl

@[simp] theorem run_map (f : α → β) (p : Procedure α) (m : Machine) :
    (f <$> p).run m
      = match p.run m with
        | .ok a after => .ok (f a) after
        | .error fault after => .error fault after := by
  rw [map_eq_pure_bind, EStateM.run_bind]
  cases p.run m <;> rfl

/-- A procedure that begins with a check on a block fails with the fault of the block, or goes on
with the machine it began with. -/
theorem run_checkBlock_bind (count : Nat) (rest : Unit → Procedure α) (m : Machine) :
    (checkBlock count >>= rest).run m
      = match m.blockFault? count with
        | some fault => .error fault m
        | none => (rest ()).run m := by
  rw [EStateM.run_bind, checkBlock, EStateM.run_bind, EStateM.run_get]
  by_cases h : m.index.toNat + count ≤ memorySize
  · simp [Memory.check, Machine.blockFault?, h]
  · simp [Memory.check, Machine.blockFault?, h]

theorem run_readKey_bind (x : Nibble) (rest : Bool → Procedure α) (m : Machine) :
    (readKey x >>= rest).run m
      = match m.keyFault? x with
        | some fault => .error fault m
        | none => (rest (m.pressedAt x)).run m := by
  rw [EStateM.run_bind, readKey, EStateM.run_bind, EStateM.run_get]
  by_cases h : (m.reg x).toNat < 16
  · simp [Machine.keyIn, Machine.keyFault?, Machine.pressedAt, Nibble.ofByte?, h]
  · simp [Machine.keyIn, Machine.keyFault?, Nibble.ofByte?, h]

/-- **An instruction refuses before its first write.** Whatever its procedure writes on the way, in
the end it has either failed and left the machine alone, or committed. -/
theorem run_execute (i : Instruction) (m : Machine) : (execute i).run m = m.settle i := by
  cases i with
  | ret =>
    cases h : m.calls with
    | nil => simp [execute, perform, pop, Machine.settle, Machine.refusal?, h]
    | cons caller outer =>
      simp [execute, perform, pop, Machine.settle, Machine.refusal?, Machine.commit, Machine.jump,
        h]
  | call nnn =>
    by_cases h : stackDepth ≤ m.calls.length
    · simp [execute, perform, push, Machine.settle, Machine.refusal?, h]
    · simp [execute, perform, push, Machine.settle, Machine.refusal?, Machine.commit, Machine.jump,
        h]
  | addIndex x =>
    by_cases h : 0x10000 ≤ m.index.toNat + (m.reg x).toNat
    · simp [execute, perform, readReg, Machine.settle, Machine.refusal?, h]
    · simp [execute, perform, readReg, writeIndex, nextAddress, Machine.settle, Machine.refusal?,
        Machine.commit, Machine.advance, Machine.jump, h]
  | arith op x y => cases op <;> rfl
  | awaitKey x =>
    cases h : m.pressed.getLast? with
    | none =>
      simp [execute, perform, Machine.settle, Machine.refusal?, Machine.commit, Machine.jump, h]
    | some key =>
      simp [execute, perform, writeReg, nextAddress, Machine.settle, Machine.refusal?,
        Machine.commit, h]
      rfl
  -- from here on a check comes first, and once it has passed both sides compute
  | draw x y n =>
    rw [execute, perform, bind_assoc, run_checkBlock_bind, Machine.settle, Machine.refusal?]
    cases m.blockFault? n.val <;> rfl
  | skipPressed x =>
    rw [execute, perform, bind_assoc, run_readKey_bind, Machine.settle, Machine.refusal?]
    cases m.keyFault? x <;> rfl
  | skipNotPressed x =>
    rw [execute, perform, bind_assoc, run_readKey_bind, Machine.settle, Machine.refusal?]
    cases m.keyFault? x <;> rfl
  | storeDecimal x =>
    rw [execute, perform, bind_assoc, run_checkBlock_bind, Machine.settle, Machine.refusal?]
    cases m.blockFault? 3 <;> rfl
  | storeRegisters x =>
    rw [execute, perform, bind_assoc, run_checkBlock_bind, Machine.settle, Machine.refusal?]
    cases m.blockFault? (x.val + 1) <;> rfl
  | loadRegisters x =>
    rw [execute, perform, bind_assoc, run_checkBlock_bind, Machine.settle, Machine.refusal?]
    cases m.blockFault? (x.val + 1) <;> rfl
  -- the others look at nothing that could fail
  | _ => rfl

end Procedure

/-! ## Cycles -/

namespace Machine

/-- The machine that work on it leaves, whether the work fails or not. -/
def left {α : Type} : EStateM.Result Fault Machine α → Machine
  | .ok _ after => after
  | .error _ after => after

variable {m after : Machine}

theorem fetch_eq_ok_iff {word : UInt16} :
    m.fetch = .ok word ↔ m.pc.toNat + 2 ≤ memorySize ∧ m.memory.word m.pc.toNat = word := by
  rw [fetch, Memory.check]
  split
  · simp [*, pure, Except.pure, bind, Except.bind]
  · simp [*, bind, Except.bind]

theorem current?_of_fetch_ok {word : UInt16} (h : m.fetch = .ok word) :
    m.current? = some (Instruction.decode word) := by
  obtain ⟨hpc, rfl⟩ := fetch_eq_ok_iff.mp h
  exact if_pos hpc

theorem current?_of_fetch_error {fault : Fault} (h : m.fetch = .error fault) :
    m.current? = none := by
  refine if_neg fun hpc ↦ ?_
  rw [fetch_eq_ok_iff.mpr ⟨hpc, rfl⟩] at h
  cases h

theorem step_of_fetch_error {fault : Fault} (h : m.fetch = .error fault) :
    m.step = .error fault m := by
  rw [step, Procedure.cycle, EStateM.run_bind, EStateM.run_get]
  simp [h]

theorem step_of_fetch_ok {word : UInt16} (h : m.fetch = .ok word) :
    m.step = match m.settle (Instruction.decode word) with
      | .ok outcome after => .ok outcome after.tickTimers
      | .error fault after => .error fault after := by
  rw [step, Procedure.cycle, EStateM.run_bind, EStateM.run_get]
  simp only [h, EStateM.run_bind, Procedure.run_ofExcept_ok, Procedure.run_execute]
  cases m.settle (Instruction.decode word) <;> rfl

/-- When a cycle fails, and what it leaves: the word cannot be fetched or its instruction is
refused, and in both cases the machine is left as it was. -/
theorem step_eq_error_iff {fault : Fault} :
    m.step = .error fault after ↔
      after = m ∧ (m.fetch = .error fault ∨
        ∃ word, m.fetch = .ok word ∧ m.refusal? (Instruction.decode word) = some fault) := by
  cases hf : m.fetch with
  | error other =>
    rw [step_of_fetch_error hf]
    simp [eq_comm, and_comm]
  | ok word =>
    rw [step_of_fetch_ok hf]
    cases hr : m.refusal? (Instruction.decode word) with
    | none => simp [settle_of_none hr, hr]
    | some other => simp [settle_of_some hr, hr, eq_comm, and_comm]

/-- When a cycle succeeds, and what it leaves: what the instruction commits, with the timers counted
down. -/
theorem step_eq_ok_iff {outcome : Outcome} :
    m.step = .ok outcome after ↔
      ∃ word, m.fetch = .ok word ∧ m.refusal? (Instruction.decode word) = none ∧
        (m.commit (Instruction.decode word)).2 = outcome ∧
        (m.commit (Instruction.decode word)).1.tickTimers = after := by
  cases hf : m.fetch with
  | error fault => simp [step_of_fetch_error hf]
  | ok word =>
    rw [step_of_fetch_ok hf]
    cases hr : m.refusal? (Instruction.decode word) with
    | none => simp [settle_of_none hr, hr]
    | some fault => simp [settle_of_some hr, hr]

/-!
## Failed cycles

A cycle that fails leaves the machine as it was: every component of it, the random source included.
So there is nothing to repair before trying again, and nothing to gain by it either: without a
change from outside, each further attempt fails in the same way.
-/

/-- A number of cycles one after the other, whether they fail or not: what each of them ended with,
and the machine in the end. -/
def attempts : Nat → Machine → List (Except Fault Outcome) × Machine
  | 0, m => ([], m)
  | count + 1, m =>
    match m.step with
    | .ok outcome after => (.ok outcome :: (attempts count after).1, (attempts count after).2)
    | .error fault after => (.error fault :: (attempts count after).1, (attempts count after).2)

theorem attempts_of_step_eq {m : Machine} {fault : Fault} (h : m.step = .error fault m)
    (count : Nat) : attempts count m = (List.replicate count (.error fault), m) := by
  induction count with
  | zero => rfl
  | succ count ih => simp [attempts, h, ih, List.replicate_succ]

/-- **Failed cycles are atomic.** Whatever the state of the machine and wherever the cycle fails,
the machine it leaves is the machine before it, and all further cycles fail with the same fault. -/
theorem failed_step_atomic {m after : Machine} {fault : Fault} (h : m.step = .error fault after) :
    after = m ∧ ∀ count, attempts count after = (List.replicate count (.error fault), m) := by
  have hsame : after = m := (step_eq_error_iff.mp h).1
  subst hsame
  exact ⟨rfl, attempts_of_step_eq h⟩

/-- A machine about to write `V0` and `V1` to the last byte of memory and the one behind it. -/
def atTheEdge : Machine :=
  { powerOn ⟨0, 0⟩ with memory := Memory.zero.write programStart [0xF1, 0x55], index := 0xFFF }

theorem step_atTheEdge : atTheEdge.step = .error (.outsideMemory memorySize) atTheEdge := by
  refine step_eq_error_iff.mpr ⟨rfl, .inr ⟨0xF155, ?_, ?_⟩⟩
  · exact fetch_eq_ok_iff.mpr (by decide +kernel)
  · decide +kernel

/-- The block at the edge of memory is refused before its first byte is written. -/
theorem failed_step_atomic_atTheEdge :
    atTheEdge.step = .error (.outsideMemory memorySize) atTheEdge ∧
      (attempts 3 atTheEdge).2.memory.byte 0xFFF = 0 :=
  ⟨step_atTheEdge, by rw [(failed_step_atomic step_atTheEdge).2 3]; decide +kernel⟩

end Machine

end ChipEight
