import ChipEight.Proofs.Instruction.Words
import ChipEight.Proofs.Machine.Transaction
import Mathlib.Data.Int.Notation

/-!
# Arithmetic and the flag

The operations of family `8` put a result into `Vx`, and five of them a bit into the flag besides.
`ArithOp.Law` says what the two have to do with the operands, in numbers and without machine words:
a sum is the result and the carry, a difference falls short by the borrow, and what a shift pushes
out is the bit.

The result is written first and the flag second, and both operands have been read before. So the law
holds for all operands, equal ones included, and only where `Vx` is the flag itself does the bit
take the place of the result.
-/

namespace ChipEight

namespace ArithOp

/-- Whether the operation puts a bit into the flag. -/
def setsFlag : ArithOp → Bool
  | .add | .sub | .shiftRight | .subReverse | .shiftLeft => true
  | .set | .or | .and | .xor => false

/-- What the result and the bit of an operation have to do with its operands `a` and `b`. A
subtraction leaves the bit `1` if there is no borrow. -/
def Law (a b result bit : ℕ) : ArithOp → Prop
  | .set => result = b
  | .or => result = a ||| b
  | .and => result = a &&& b
  | .xor => result = a ^^^ b
  | .add => result + 256 * bit = a + b
  | .sub => bit ≤ 1 ∧ (bit = 1 ↔ b ≤ a) ∧ (result : ℤ) = a - b + 256 * (1 - bit)
  | .subReverse => bit ≤ 1 ∧ (bit = 1 ↔ a ≤ b) ∧ (result : ℤ) = b - a + 256 * (1 - bit)
  | .shiftRight => bit ≤ 1 ∧ a = 2 * result + bit
  | .shiftLeft => 2 * a = 256 * bit + result

theorem law_sub (a b : UInt8) :
    Law a.toNat b.toNat (a - b).toNat (if b ≤ a then 1 else 0 : UInt8).toNat .sub := by
  have ha := a.toNat_lt
  have hb := b.toNat_lt
  by_cases h : b ≤ a
  · have hle : b.toNat ≤ a.toNat := h
    rw [if_pos h, UInt8.toNat_sub_of_le a b h]
    exact ⟨Nat.le_refl 1, by simp [hle], by simp; omega⟩
  · have hlt : a.toNat < b.toNat := Nat.lt_of_not_le h
    rw [if_neg h, UInt8.toNat_sub]
    exact ⟨Nat.zero_le _, by simp [hlt], by simp; omega⟩

/-- The bit that an operation puts into the flag, if it does, and its result obey the law. -/
theorem law_apply (op : ArithOp) (a b : UInt8) :
    op.Law a.toNat b.toNat (op.apply a b).1.toNat ((op.apply a b).2.getD 0).toNat := by
  have ha := a.toNat_lt
  have hb := b.toNat_lt
  cases op with
  | set => rfl
  | or => exact UInt8.toNat_or a b
  | and => exact UInt8.toNat_and a b
  | xor => exact UInt8.toNat_xor a b
  | add =>
    change (a + b).toNat + 256 * (if a.toNat + b.toNat < 256 then 0 else 1 : UInt8).toNat = _
    rw [UInt8.toNat_add]
    split <;> simp <;> omega
  | sub => exact law_sub a b
  | subReverse => exact law_sub b a
  | shiftRight =>
    have hresult : (a >>> 1).toNat = a.toNat / 2 := by
      rw [UInt8.toNat_shiftRight]
      exact Nat.shiftRight_eq_div_pow a.toNat 1
    have hbit : (a &&& 1).toNat = a.toNat % 2 := by
      rw [UInt8.toNat_and]
      exact Nat.and_one_is_mod a.toNat
    change (a &&& 1).toNat ≤ 1 ∧ a.toNat = 2 * (a >>> 1).toNat + (a &&& 1).toNat
    rw [hresult, hbit]
    omega
  | shiftLeft =>
    have hresult : (a <<< 1).toNat = a.toNat * 2 % 256 := by
      rw [UInt8.toNat_shiftLeft]
      exact congrArg (· % 256) (Nat.shiftLeft_eq a.toNat 1)
    have hbit : (a >>> 7).toNat = a.toNat / 128 := by
      rw [UInt8.toNat_shiftRight]
      exact Nat.shiftRight_eq_div_pow a.toNat 7
    change 2 * a.toNat = 256 * (a >>> 7).toNat + (a <<< 1).toNat
    rw [hresult, hbit]
    omega

end ArithOp

namespace Machine

variable {m : Machine} {r s k : Nibble}

/-! ## Results and bits in registers -/

theorem commit_arith_of_not_setsFlag {op : ArithOp} (h : op.setsFlag = false) (m : Machine)
    (r s : Nibble) :
    m.commit (.arith op r s)
      = (m.advance.setReg r (op.apply (m.reg r) (m.reg s)).1, .proceed) := by
  cases op <;> first | rfl | cases h

theorem commit_arith_of_setsFlag {op : ArithOp} (h : op.setsFlag = true) (m : Machine)
    (r s : Nibble) :
    m.commit (.arith op r s)
      = ((m.advance.setReg r (op.apply (m.reg r) (m.reg s)).1).setReg flag
          ((op.apply (m.reg r) (m.reg s)).2.getD 0), .proceed) := by
  cases op <;> first | rfl | cases h

theorem commit_arith_frame (m : Machine) (op : ArithOp) (r s : Nibble) :
    (m.commit (.arith op r s)).1
      = { m with v := (m.commit (.arith op r s)).1.v, pc := m.pc + 2 } := by
  cases op <;> rfl

/-- The flag holds the bit, whatever the target of the operation is. -/
theorem reg_flag_of_setsFlag {op : ArithOp} (h : op.setsFlag = true) (m : Machine) (r s : Nibble) :
    (m.commit (.arith op r s)).1.reg flag = (op.apply (m.reg r) (m.reg s)).2.getD 0 := by
  rw [commit_arith_of_setsFlag h]
  exact reg_setReg_self _ _ _

/-- The target holds the result, unless it is the flag and the bit has taken its place. -/
theorem reg_target_commit_arith {op : ArithOp} (m : Machine) {r : Nibble} (s : Nibble)
    (h : op.setsFlag = true → r ≠ flag) :
    (m.commit (.arith op r s)).1.reg r = (op.apply (m.reg r) (m.reg s)).1 := by
  cases hset : op.setsFlag with
  | false =>
    rw [commit_arith_of_not_setsFlag hset]
    exact reg_setReg_self _ _ _
  | true =>
    rw [commit_arith_of_setsFlag hset, reg_setReg_of_ne _ _ (h hset)]
    exact reg_setReg_self _ _ _

theorem reg_commit_arith_of_ne {op : ArithOp} (m : Machine) {r k : Nibble} (s : Nibble)
    (hr : k ≠ r) (hflag : op.setsFlag = true → k ≠ flag) :
    (m.commit (.arith op r s)).1.reg k = m.reg k := by
  cases hset : op.setsFlag with
  | false =>
    rw [commit_arith_of_not_setsFlag hset]
    exact reg_setReg_of_ne _ _ hr
  | true =>
    rw [commit_arith_of_setsFlag hset, reg_setReg_of_ne _ _ (hflag hset)]
    exact reg_setReg_of_ne _ _ hr

theorem step_of_execute {w : UInt16} {i : Instruction} {outcome : Outcome} {after : Machine}
    (hfetch : m.fetch = .ok w) (hi : i.Fits w)
    (h : (Procedure.execute i).run m = .ok outcome after) :
    m.step = .ok outcome after.tickTimers := by
  rw [Procedure.run_execute] at h
  rw [step_of_fetch_ok hfetch, Instruction.decode_of_fits hi, h]

/-- **Arithmetic and the flag.** The operations of family `8` succeed on all registers, and so does
the addition of a byte. Result and flag obey the law of the operation, with the operands as they
were before; if the target is the flag, an operation that sets the flag leaves the bit in it and not
the result. The others leave the flag alone unless it is their target. No further register changes,
nothing else of the machine but the program counter, and the cycle that executes the word does the
same. -/
theorem arithmetic_law (m : Machine) (r s : Nibble) :
    (∀ op : ArithOp, ∃ after, (Procedure.execute (.arith op r s)).run m = .ok .proceed after ∧
      (∃ result : UInt8,
        op.Law (m.reg r).toNat (m.reg s).toNat result.toNat (after.reg flag).toNat ∧
          ((op.setsFlag = true → r ≠ flag) → after.reg r = result)) ∧
      (op.setsFlag = false → r ≠ flag → after.reg flag = m.reg flag) ∧
      (∀ k, k ≠ r → k ≠ flag → after.reg k = m.reg k) ∧
      after = { m with v := after.v, pc := m.pc + 2 } ∧
      ∀ w, m.fetch = .ok w → (Instruction.arith op r s).Fits w →
        m.step = .ok .proceed after.tickTimers) ∧
    ∀ nn : UInt8, ∃ after, (Procedure.execute (.addByte r nn)).run m = .ok .proceed after ∧
      (after.reg r).toNat = ((m.reg r).toNat + nn.toNat) % 256 ∧
      (∀ k, k ≠ r → after.reg k = m.reg k) ∧
      after = { m with v := after.v, pc := m.pc + 2 } ∧
      ∀ w, m.fetch = .ok w → (Instruction.addByte r nn).Fits w →
        m.step = .ok .proceed after.tickTimers := by
  constructor
  · intro op
    have hrun : (Procedure.execute (.arith op r s)).run m
        = .ok .proceed (m.commit (.arith op r s)).1 := by
      rw [Procedure.run_execute, settle_of_none rfl]
      cases op <;> rfl
    refine ⟨_, hrun, ⟨(op.apply (m.reg r) (m.reg s)).1, ?_, m.reg_target_commit_arith s⟩, ?_, ?_,
      m.commit_arith_frame op r s, fun w hfetch hi ↦ step_of_execute hfetch hi hrun⟩
    · have hlaw := op.law_apply (m.reg r) (m.reg s)
      cases hset : op.setsFlag with
      | true => rwa [reg_flag_of_setsFlag hset]
      | false =>
        -- the law of an operation without a bit does not speak of the flag
        cases op <;> first | exact hlaw | cases hset
    · intro hset hr
      exact m.reg_commit_arith_of_ne s (Ne.symm hr) (by simp [hset])
    · exact fun k hr hflag ↦ m.reg_commit_arith_of_ne s hr fun _ ↦ hflag
  · intro nn
    have hrun : (Procedure.execute (.addByte r nn)).run m
        = .ok .proceed (m.advance.setReg r (m.reg r + nn)) := by
      rw [Procedure.run_execute, settle_of_none rfl]
      rfl
    refine ⟨_, hrun, ?_, fun k hk ↦ m.advance.reg_setReg_of_ne _ hk, rfl,
      fun w hfetch hi ↦ step_of_execute hfetch hi hrun⟩
    rw [reg_setReg_self, UInt8.toNat_add]

/-- A machine about to add the flag to itself. -/
def doublingTheFlag : Machine :=
  { powerOn ⟨0, 0⟩ with
    memory := Memory.zero.write programStart [0x8F, 0xF4]
    v := Vector.replicate 16 200 }

/-- The carry is left in the flag, and the sum is lost. -/
theorem arithmetic_law_doublingTheFlag :
    ∃ after : Machine, doublingTheFlag.step = .ok .proceed after ∧ after.reg flag = 1 := by
  obtain ⟨after, -, ⟨result, hlaw, -⟩, -, -, -, hstep⟩ :=
    (arithmetic_law doublingTheFlag flag flag).1 .add
  have hfetch : doublingTheFlag.fetch = .ok 0x8FF4 := fetch_eq_ok_iff.mpr (by decide +kernel)
  have hsum : result.toNat + 256 * (after.reg flag).toNat = 200 + 200 := hlaw
  have hresult := result.toNat_lt
  refine ⟨after.tickTimers, hstep _ hfetch ⟨by decide, by decide, by decide, by decide⟩, ?_⟩
  refine UInt8.toNat_inj.mp (Nat.mul_left_cancel (n := 256) (by decide) ?_)
  change 256 * (after.reg flag).toNat = 256 * 1
  omega

end Machine

end ChipEight
