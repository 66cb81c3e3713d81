import ChipEight.Debugger
import ChipEight.Proofs.Instruction.Words
import ChipEight.Proofs.Machine.Transaction
import ChipEight.Proofs.Snapshot.Restoring

/-!
# Reachable machines

The addresses a machine computes are sixteen bits wide, and a few bounds keep every sum from
wrapping around. They hold of every machine that came about by the operations of the machine and by
the overwriting of its parts, whatever programs it ran: a program may rewrite itself, so the bounds
cannot come from its text.

## Where the bounds come from

* A call is made by an instruction that was fetched, and a word can be fetched only from `0xFFE` or
  below. So no pending call is above `0xFFE`.
* The program counter exceeds the addresses of an instruction word, which have twelve bits, only by
  the offset of a jump, which is a register. So it stays at or below `0xFFF + 0xFF = 0x10FE`; going
  on from a fetched instruction or returning to a pending call leads nowhere near that.

The bounds need each other: the second one is what makes the sums exact that the first one is about.
-/

namespace ChipEight

/-! ## Addresses in instruction words -/

namespace Instruction

/-- The address in an instruction, if it has one. -/
def address? : Instruction → Option UInt16
  | .jump nnn | .call nnn | .setIndex nnn | .jumpOffset nnn => some nnn
  | _ => none

theorem address_le_of_decode {w a : UInt16} (h : (decode w).address? = some a) :
    a.toNat ≤ 0xFFF := by
  have hfits := fits_decode w
  cases hi : decode w with
  | jump b | call b | setIndex b | jumpOffset b =>
    rw [hi] at h hfits
    obtain rfl := Option.some.inj h
    rw [hfits.2, Word.toNat_nnn]
    omega
  | _ =>
    rw [hi] at h
    cases h

end Instruction

namespace Machine

/-! ## The bounds -/

/-- The bounds of a machine's addresses. -/
structure Bounded (m : Machine) : Prop where
  /-- There are no more pending calls than the machine supports. -/
  depth_le : m.calls.length ≤ stackDepth
  /-- Every pending call was made from a place where an instruction fits. -/
  caller_le : ∀ caller ∈ m.calls, caller.toNat ≤ 0xFFE
  /-- The program counter is at most the address of an instruction word and an offset. -/
  pc_le : m.pc.toNat ≤ 0x10FE

namespace Bounded

variable {m : Machine}

theorem pc_add_two (h : m.Bounded) : (m.pc + 2).toNat = m.pc.toNat + 2 :=
  toNat_next (Nat.le_trans h.pc_le (by decide))

theorem pc_add_four (h : m.Bounded) : (m.pc + 2 + 2).toNat = m.pc.toNat + 4 := by
  have := h.pc_le
  rw [toNat_next (by rw [h.pc_add_two]; omega), h.pc_add_two]

theorem caller_add_two (h : m.Bounded) {caller : UInt16} (hc : caller ∈ m.calls) :
    (caller + 2).toNat = caller.toNat + 2 :=
  toNat_next (Nat.le_trans (h.caller_le caller hc) (by decide))

/-- Bounds are about the program counter and the pending calls only. -/
theorem of_eq {after : Machine} (h : m.Bounded) (hc : after.calls = m.calls)
    (hp : after.pc = m.pc) : after.Bounded :=
  ⟨hc ▸ h.depth_le, hc ▸ h.caller_le, hp ▸ h.pc_le⟩

theorem jump (h : m.Bounded) {address : UInt16} (ha : address.toNat ≤ 0x10FE) :
    (m.jump address).Bounded :=
  ⟨h.depth_le, h.caller_le, ha⟩

theorem advance (h : m.Bounded) (hpc : m.pc.toNat ≤ 0xFFE) : m.advance.Bounded :=
  h.jump (by rw [h.pc_add_two]; omega)

theorem skip (h : m.Bounded) (hpc : m.pc.toNat ≤ 0xFFE) (condition : Bool) :
    (m.skip condition).Bounded := by
  have htwo := h.pc_add_two
  have hfour := h.pc_add_four
  cases condition with
  | false => exact h.jump (by rw [if_neg Bool.false_ne_true]; omega)
  | true => exact h.jump (by rw [if_pos rfl]; omega)

end Bounded

/-! ## What a cycle preserves -/

/-- An instruction that was fetched and is not refused commits a bounded machine. Only four of them
set the program counter to anything but the next instructions, and only two touch the calls. -/
theorem Bounded.commit {m : Machine} (h : m.Bounded) (hpc : m.pc.toNat ≤ 0xFFE) {i : Instruction}
    (ha : ∀ a, i.address? = some a → a.toNat ≤ 0xFFF) (hr : m.refusal? i = none) :
    (m.commit i).1.Bounded := by
  cases i with
  | ret =>
    cases hcalls : m.calls with
    | nil => simp [refusal?, hcalls] at hr
    | cons caller outer =>
      have hmem : caller ∈ m.calls := hcalls ▸ List.mem_cons_self
      have hle := h.caller_le caller hmem
      have hadd := h.caller_add_two hmem
      have hdepth := h.depth_le
      simp only [Machine.commit, hcalls, List.tail_cons, List.headD_cons]
      refine ⟨?_, ?_, ?_⟩
      · rw [hcalls, List.length_cons] at hdepth
        exact Nat.le_of_succ_le hdepth
      · intro c hc
        exact h.caller_le c (hcalls ▸ List.mem_cons_of_mem caller hc)
      · change (caller + 2).toNat ≤ 0x10FE
        omega
  | call nnn =>
    have hroom : ¬stackDepth ≤ m.calls.length := by
      intro hfull
      simp [refusal?, hfull] at hr
    have hnnn := ha nnn rfl
    refine ⟨?_, ?_, ?_⟩
    · exact Nat.lt_of_not_le hroom
    · intro c hc
      rcases List.mem_cons.mp hc with rfl | hc
      · -- the new call is where this instruction was fetched
        exact hpc
      · exact h.caller_le c hc
    · exact Nat.le_trans hnnn (by decide)
  | jump nnn => exact h.jump (Nat.le_trans (ha nnn rfl) (by decide))
  | jumpOffset nnn =>
    have hnnn := ha nnn rfl
    have hv := (m.reg (.ofNat 0)).toNat_lt
    exact h.jump (by rw [offset_add hnnn]; omega)
  | skipEqualByte x nn => exact h.skip hpc _
  | skipUnequalByte x nn => exact h.skip hpc _
  | skipEqual x y => exact h.skip hpc _
  | skipUnequal x y => exact h.skip hpc _
  | skipPressed x => exact h.skip hpc _
  | skipNotPressed x => exact h.skip hpc _
  | arith op x y => cases op <;> exact (h.advance hpc).of_eq rfl rfl
  | awaitKey x =>
    rw [Machine.commit]
    split
    · exact (h.advance hpc).of_eq rfl rfl
    · exact h
  | unknown word => exact h
  | _ => exact (h.advance hpc).of_eq rfl rfl

theorem Bounded.step {m : Machine} (h : m.Bounded) : (left m.step).Bounded := by
  cases hs : m.step with
  | error fault after =>
    obtain ⟨rfl, -⟩ := step_eq_error_iff.mp hs
    exact h
  | ok outcome after =>
    obtain ⟨word, hf, hr, -, rfl⟩ := step_eq_ok_iff.mp hs
    -- a word was fetched from where the program counter is
    have hpc : m.pc.toNat ≤ 0xFFE := by
      have := (fetch_eq_ok_iff.mp hf).1
      rw [memorySize] at this
      omega
    have hcommit := h.commit hpc (fun a ↦ Instruction.address_le_of_decode) hr
    exact hcommit.of_eq rfl rfl

/-! ## What the other operations preserve -/

theorem bounded_powerOn (random : RandomSource) : (powerOn random).Bounded :=
  ⟨Nat.zero_le _, by simp [powerOn], by simp [powerOn, programStart]⟩

theorem Bounded.load {m : Machine} (program : List UInt8) : (m.load program).1.Bounded := by
  have hreset : m.reset.Bounded := bounded_powerOn m.random
  rw [Machine.load]
  split
  · exact hreset.of_eq rfl rfl
  · exact hreset

/-- A debugger overwrites the program counter only by an address in memory. -/
theorem Bounded.assign {d : Debugger} (h : d.machine.Bounded) (target : Target) (value : UInt16) :
    (d.assign target value).1.machine.Bounded := by
  rw [Debugger.assign]
  cases hm : d.machine.assign? target value with
  | none => exact h
  | some after =>
    change after.Bounded
    cases target with
    | v x =>
      obtain ⟨b, -, rfl⟩ := Option.map_eq_some_iff.mp hm
      exact h.of_eq rfl rfl
    | index =>
      obtain rfl := Option.some.inj hm
      exact h.of_eq rfl rfl
    | pc =>
      obtain ⟨hlt, hjump⟩ := Option.ite_none_right_eq_some.mp hm
      obtain rfl := Option.some.inj hjump
      rw [memorySize] at hlt
      exact h.jump (by omega)
    | delay =>
      obtain ⟨b, -, rfl⟩ := Option.map_eq_some_iff.mp hm
      exact h.of_eq rfl rfl
    | sound =>
      obtain ⟨b, -, rfl⟩ := Option.map_eq_some_iff.mp hm
      exact h.of_eq rfl rfl

/-- A snapshot of a bounded machine is never refused, and what it restores is bounded. -/
theorem Bounded.restore {m s : Machine} (h : s.Bounded) :
    ∃ after, m.restore s.snapshot = .ok () after ∧ after.Bounded := by
  have hdepth : s.snapshot.stack.length ≤ stackDepth := by
    rw [length_stack_snapshot]
    exact h.depth_le
  obtain ⟨after, hafter, hagrees, -⟩ := restore_of_le m hdepth
  refine ⟨after, hafter, ?_⟩
  rw [(agrees_snapshot s).eq_of_agrees hagrees]
  exact h.of_eq rfl rfl

/-! ## Reachable machines -/

/-- The machines that come about from power-on by the operations of the machine, by the overwriting
of its parts and by restoring snapshots of machines that came about in the same way. A program that
is refused and a cycle that fails count as well. -/
inductive Reachable : Machine → Prop
  | powerOn (random : RandomSource) : Reachable (Machine.powerOn random)
  | reset {m : Machine} : Reachable m → Reachable m.reset
  | load {m : Machine} (program : List UInt8) : Reachable m → Reachable (m.load program).1
  | step {m : Machine} : Reachable m → Reachable (left m.step)
  | tickTimers {m : Machine} : Reachable m → Reachable m.tickTimers
  | setKey {m : Machine} (key : Nibble) (down : Bool) : Reachable m → Reachable (m.setKey key down)
  | assign {d : Debugger} (target : Target) (value : UInt16) :
      Reachable d.machine → Reachable (d.assign target value).1.machine
  | restore {m s : Machine} : Reachable m → Reachable s → Reachable (left (m.restore s.snapshot))

theorem Reachable.bounded {m : Machine} (h : Reachable m) : m.Bounded := by
  induction h with
  | powerOn random => exact bounded_powerOn random
  | reset _ _ => exact bounded_powerOn _
  | load program _ _ => exact Bounded.load program
  | step _ ih => exact ih.step
  | tickTimers _ ih => exact ih.of_eq rfl rfl
  | setKey key down _ ih => exact ih.of_eq rfl rfl
  | assign target value _ ih => exact ih.assign target value
  | @restore m s _ _ _ ih =>
    obtain ⟨after, hafter, hbounded⟩ := ih.restore (m := m)
    rw [hafter]
    exact hbounded

/-- The sums of addresses that an instruction may form are exact. -/
structure ExactSums (m : Machine) : Prop where
  /-- The address of the next instruction. -/
  next : (m.pc + 2).toNat = m.pc.toNat + 2
  /-- The address of the instruction behind the next one. -/
  skip : (m.pc + 2 + 2).toNat = m.pc.toNat + 4
  /-- The addresses that calls return to. -/
  ret : ∀ caller ∈ m.calls, (caller + 2).toNat = caller.toNat + 2
  /-- The address an offset jump leads to, whatever word it was decoded from. -/
  offset : ∀ word nnn, Instruction.decode word = .jumpOffset nnn →
    (nnn + (m.reg (.ofNat 0)).toUInt16).toNat = nnn.toNat + (m.reg (.ofNat 0)).toNat

/-- **Addresses never wrap around.** Every reachable machine is bounded; so all sums of addresses it
forms are exact, and its snapshot is accepted by every machine. -/
theorem reachable_addresses {m : Machine} (h : Reachable m) :
    m.Bounded ∧ m.ExactSums ∧
      ∀ other : Machine, ∃ after, other.restore m.snapshot = .ok () after := by
  have hb := h.bounded
  refine ⟨hb, ⟨hb.pc_add_two, hb.pc_add_four, fun _ hc ↦ hb.caller_add_two hc, ?_⟩, ?_⟩
  · intro word nnn hword
    exact offset_add (Instruction.address_le_of_decode (w := word) (by rw [hword]; rfl)) _
  · intro other
    obtain ⟨after, hafter, -⟩ := hb.restore (m := other)
    exact ⟨after, hafter⟩

/-- A machine that makes an offset jump as far as one can lead. -/
def farJump : Machine :=
  (((powerOn ⟨0, 0⟩).load [0xBF, 0xFF]).1.setReg (.ofNat 0) 0xFF)

theorem reachable_farJump : Reachable farJump :=
  Reachable.assign (d := ⟨((powerOn ⟨0, 0⟩).load [0xBF, 0xFF]).1, ⟨1, 0⟩, [], false, []⟩)
    (.v (.ofNat 0)) 0xFF (.load _ (.powerOn _))

/-- The bound on the program counter is attained: an offset jump leads up to it. -/
theorem reachable_addresses_farJump :
    (left farJump.step).pc = 0x10FE ∧ (left farJump.step).Bounded ∧ (left farJump.step).ExactSums ∧
      ∀ other : Machine, ∃ after, other.restore (left farJump.step).snapshot = .ok () after :=
  ⟨by decide +kernel, reachable_addresses (.step reachable_farJump)⟩

end Machine

end ChipEight
