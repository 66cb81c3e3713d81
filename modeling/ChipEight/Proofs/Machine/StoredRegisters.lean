import ChipEight.Proofs.Machine.Frame
import ChipEight.Proofs.Machine.Operation

/-!
# Registers in memory

The instruction `Fx55` writes the registers `V0` to `Vx` to memory at `I`, and `Fy65` reads `V0` to
`Vy` back. Programs use the two to keep registers while they do something else, and this file says
when that works: the registers come back as they were if `I` is what it was, no more of them are
read than were written, and no instruction in between writes to the block that holds them.

Memory is written by `Fx55` and `Fx33` only, so a byte is kept by any number of cycles none of which
executes one of the two over it. Whether such an instruction writes the same value again makes no
difference; it is not asked what is written.

The other instruction, `Fx33`, leaves the decimal digits of a register.
-/

namespace ChipEight

open Word

/-- How many bytes an instruction writes to memory, from `I` on. -/
def Instruction.bytesWritten : Instruction → ℕ
  | .storeDecimal _ => 3
  | .storeRegisters r => r.val + 1
  | _ => 0

namespace Machine

/-- The next cycle executes an instruction that writes the byte at an address. -/
def Overwrites (m : Machine) (a : ℕ) : Prop :=
  ∃ i, m.StandsAt i ∧ m.index.toNat ≤ a ∧ a < m.index.toNat + i.bytesWritten

instance (m : Machine) (a : ℕ) : Decidable (m.Overwrites a) :=
  decidable_of_iff (∃ i ∈ m.current?, m.index.toNat ≤ a ∧ a < m.index.toNat + i.bytesWritten) <| by
    simp only [Overwrites, Option.mem_def, current?_eq_some_iff]

variable {m after : Machine} {outcome : Outcome} {r k : Nibble} {a : ℕ} {op : Operation}
  {ops : List Operation}

/-! ## Bytes that are kept -/

theorem byte_of_step (h : m.step = .ok outcome after) (ha : ¬m.Overwrites a) :
    after.memory.byte a = m.memory.byte a := by
  obtain ⟨word, hfetch, -, -, rfl⟩ := step_eq_ok_iff.mp h
  obtain ⟨hpc, hword⟩ := atWord_of_fetch hfetch
  by_contra hne
  obtain ⟨hfamily, hle, ⟨hcode, hlast⟩ | ⟨hcode, hlast⟩⟩ :=
    memory_commit (Instruction.fits_decode word) hne
  · exact ha ⟨.storeDecimal (x word), ⟨hpc, word, hword, hfamily, hcode, rfl⟩, hle,
      Nat.lt_succ_of_le hlast⟩
  · exact ha ⟨.storeRegisters (x word), ⟨hpc, word, hword, hfamily, hcode, rfl⟩, hle,
      Nat.lt_succ_of_le hlast⟩

/-- Of the operations that let the machine go on, only cycles write to memory. -/
theorem byte_of_apply (hgoesOn : op.goesOn = true) (hok : (m.apply op).1.toBool = true)
    (ha : op = .step → ¬m.Overwrites a) : (m.apply op).2.memory.byte a = m.memory.byte a := by
  cases op with
  | step =>
    obtain ⟨outcome, hstep⟩ := exists_step_of_toBool hok
    exact byte_of_step hstep (ha rfl)
  | tickTimers | setKey => rfl
  | reset | load | restore => cases hgoesOn

/-- A run keeps the bytes that none of its cycles overwrites. -/
theorem byte_of_run (hrun : m.RunsThrough ops)
    (ha : ∀ j, ops[j]? = some .step → ¬(m.moment ops j).Overwrites a) :
    (m.applyAll ops).memory.byte a = m.memory.byte a := by
  induction ops generalizing m with
  | nil => rfl
  | cons op ops ih =>
    obtain ⟨hgoesOn, hok, hrest⟩ := hrun
    have hfirst : (m.apply op).2.memory.byte a = m.memory.byte a :=
      byte_of_apply hgoesOn hok fun hop ↦ ha 0 (congrArg some hop)
    rw [applyAll, ih hrest fun j hj ↦ ha (j + 1) hj, hfirst]

/-! ## Storing and loading -/

theorem getElem_firstRegisters (hk : k.val < (m.firstRegisters r).length) :
    (m.firstRegisters r)[k.val] = m.reg k := by
  simp only [firstRegisters, List.getElem_take, Vector.getElem_toList]
  rfl

theorem le_of_blockFault? {count : ℕ} (h : m.blockFault? count = none) :
    m.index.toNat + count ≤ memorySize := by
  by_contra hout
  rw [blockFault?, if_neg hout] at h
  cases h

theorem byte_of_storeRegisters (h : m.StandsAt (.storeRegisters r))
    (hstep : m.step = .ok outcome after) :
    m.index.toNat + r.val < memorySize ∧
      ∀ k ≤ r, after.memory.byte (m.index.toNat + k.val) = m.reg k := by
  obtain ⟨hrefusal, -, rfl⟩ := h.step_eq_ok_iff.mp hstep
  have hblock : m.index.toNat + (r.val + 1) ≤ memorySize := le_of_blockFault? hrefusal
  refine ⟨hblock, fun k hk ↦ ?_⟩
  have hlength := m.length_firstRegisters r
  have hinside : k.val < (m.firstRegisters r).length := by
    rw [hlength]
    exact Nat.lt_succ_of_le hk
  have hbyte : (m.memory.write m.index.toNat (m.firstRegisters r)).byte (m.index.toNat + k.val)
      = (m.firstRegisters r)[k.val] :=
    Memory.byte_write (hlength ▸ hblock) hinside
  exact hbyte.trans (getElem_firstRegisters hinside)

theorem exists_step_of_loadRegisters (h : m.StandsAt (.loadRegisters r))
    (hblock : m.index.toNat + r.val < memorySize) :
    ∃ after, m.step = .ok .proceed after ∧
      (∀ k ≤ r, after.reg k = m.memory.byte (m.index.toNat + k.val)) ∧
      (∀ k, r < k → after.reg k = m.reg k) ∧ after.index = m.index := by
  have hrefusal : m.refusal? (.loadRegisters r) = none := if_pos hblock
  refine ⟨_, h.step_eq_ok_iff.mpr ⟨hrefusal, rfl, rfl⟩, fun k hk ↦ ?_, fun k hk ↦ ?_, rfl⟩
  · exact (Vector.getElem_ofFn k.lt).trans (if_pos hk)
  · exact get_fillRegisters_of_not_le (Nat.not_le_of_lt hk)

/-! ## Decimal digits -/

/-- The three digits of a byte are digits, and the byte is the number they denote. -/
theorem exists_decimalDigits (b : UInt8) :
    ∃ hundreds tens units : UInt8, decimalDigits b = [hundreds, tens, units] ∧
      hundreds.toNat ≤ 9 ∧ tens.toNat ≤ 9 ∧ units.toNat ≤ 9 ∧
      100 * hundreds.toNat + 10 * tens.toNat + units.toNat = b.toNat := by
  have hb := b.toNat_lt
  have hhundreds : (b / 100).toNat = b.toNat / 100 := UInt8.toNat_div b 100
  have htens : (b / 10 % 10).toNat = b.toNat / 10 % 10 := by
    rw [UInt8.toNat_mod, UInt8.toNat_div]
    rfl
  have hunits : (b % 10).toNat = b.toNat % 10 := UInt8.toNat_mod b 10
  refine ⟨_, _, _, rfl, ?_, ?_, ?_, ?_⟩
  · omega
  · omega
  · omega
  · omega

theorem block_of_storeDecimal (h : m.StandsAt (.storeDecimal r))
    (hstep : m.step = .ok outcome after) :
    m.index.toNat + 2 < memorySize ∧
      after.memory.block m.index.toNat 3 = decimalDigits (m.reg r) ∧
      ∀ a, a < m.index.toNat ∨ m.index.toNat + 2 < a →
        after.memory.byte a = m.memory.byte a := by
  obtain ⟨hrefusal, -, rfl⟩ := h.step_eq_ok_iff.mp hstep
  have hblock : m.index.toNat + 3 ≤ memorySize := le_of_blockFault? hrefusal
  refine ⟨hblock, Memory.block_write hblock, fun a ha ↦ ?_⟩
  exact Memory.byte_write_of_outside (ha.imp_right Nat.succ_le_of_lt)

/-- **Stored registers come back.** Let a cycle store the registers up to `Vx`, and let a run follow
in which no cycle overwrites one of the bytes they went to. If `I` is in the end what it was and the
machine is at an instruction that loads the registers up to `Vy`, with `y ≤ x`, the next cycle
succeeds; the registers it loads are those that were stored, the ones above them are kept, and so is
`I`.

A cycle that stores the decimal digits of a register stores three digits, and they make up what is
in the register. The bytes around them are kept. -/
theorem stored_registers_reload (hstep : m.step = .ok outcome after) :
    (m.StandsAt (.storeRegisters r) → ∀ ops, after.RunsThrough ops →
      (∀ j a, ops[j]? = some .step → m.index.toNat ≤ a → a ≤ m.index.toNat + r.val →
        ¬(after.moment ops j).Overwrites a) →
      ∀ last s, last = after.applyAll ops → last.index = m.index →
        last.StandsAt (.loadRegisters s) → s ≤ r →
        ∃ loaded, last.step = .ok .proceed loaded ∧ (∀ k ≤ s, loaded.reg k = m.reg k) ∧
          (∀ k, s < k → loaded.reg k = last.reg k) ∧ loaded.index = m.index) ∧
    (m.StandsAt (.storeDecimal r) → m.index.toNat + 2 < memorySize ∧
      ∃ hundreds tens units : UInt8,
        hundreds.toNat ≤ 9 ∧ tens.toNat ≤ 9 ∧ units.toNat ≤ 9 ∧
        100 * hundreds.toNat + 10 * tens.toNat + units.toNat = (m.reg r).toNat ∧
        after.memory.byte m.index.toNat = hundreds ∧
        after.memory.byte (m.index.toNat + 1) = tens ∧
        after.memory.byte (m.index.toNat + 2) = units ∧
        ∀ a, a < m.index.toNat ∨ m.index.toNat + 2 < a →
          after.memory.byte a = m.memory.byte a) := by
  constructor
  · rintro hstore ops hrun hkept last s rfl hindex hload hs
    obtain ⟨hblock, hstored⟩ := byte_of_storeRegisters hstore hstep
    have hsr : s.val ≤ r.val := hs
    obtain ⟨loaded, hlast, hloaded, habove, hI⟩ :=
      exists_step_of_loadRegisters hload (by rw [hindex]; omega)
    refine ⟨loaded, hlast, fun k hk ↦ ?_, habove, hI.trans hindex⟩
    have hkr : k.val ≤ r.val := Nat.le_trans hk hs
    have hbyte : (after.applyAll ops).memory.byte (m.index.toNat + k.val)
        = after.memory.byte (m.index.toNat + k.val) :=
      byte_of_run hrun fun j hj ↦ hkept j _ hj (by omega) (by omega)
    rw [hloaded k hk, hindex, hbyte, hstored k hkr]
  · intro hstore
    obtain ⟨hblock, hstored, hkept⟩ := block_of_storeDecimal hstore hstep
    obtain ⟨hundreds, tens, units, hdigits, hh, ht, hu, hsum⟩ := exists_decimalDigits (m.reg r)
    have hbytes : [after.memory.byte m.index.toNat, after.memory.byte (m.index.toNat + 1),
        after.memory.byte (m.index.toNat + 2)] = [hundreds, tens, units] :=
      hstored.trans hdigits
    obtain ⟨hfirst, hsecond, hthird⟩ := by simpa only [List.cons.injEq, and_true] using hbytes
    exact ⟨hblock, hundreds, tens, units, hh, ht, hu, hsum, hfirst, hsecond, hthird, hkept⟩

/-- A machine about to store three registers in the last three bytes of memory. Its program lies at
the bottom of memory. It points `I` elsewhere then, changes a register, stores digits there, and
comes back to load two of the three. -/
def keepingRegisters : Machine :=
  { powerOn ⟨0, 0⟩ with
    pc := 0
    memory := Memory.zero.write 0
      [0xF2, 0x55, 0xA0, 0x20, 0x60, 0x63, 0xF1, 0x33, 0xAF, 0xFD, 0xF1, 0x65]
    v := Vector.ofFn fun k ↦ .ofNat (50 * k.val + 7)
    index := 0xFFD }

/-- The same machine when the registers are in memory. -/
def keptRegisters : Machine := (keepingRegisters.commit (.storeRegisters (.ofNat 2))).1.tickTimers

/-- What the program does between storing and loading, with a key pressed meanwhile. -/
def meanwhile : List Operation :=
  [.step, .step, .setKey (.ofNat 3) true, .step, .step]

/-- The register that was changed comes back as it was, and the digits stored meanwhile make up the
other one. -/
theorem stored_registers_reload_atTheEnd :
    (∃ loaded, (keptRegisters.applyAll meanwhile).step = .ok .proceed loaded ∧
      (keptRegisters.applyAll meanwhile).reg (.ofNat 0) = 99 ∧ loaded.reg (.ofNat 0) = 7) ∧
    ∃ after, (keptRegisters.moment meanwhile 3).step = .ok .proceed after ∧
      ∃ hundreds tens units : UInt8,
        100 * hundreds.toNat + 10 * tens.toNat + units.toNat = 57 ∧
        after.memory.byte 0x21 = tens := by
  constructor
  · have hstore : keepingRegisters.StandsAt (.storeRegisters (.ofNat 2)) := by decide +kernel
    have hstep : keepingRegisters.step = .ok .proceed keptRegisters :=
      hstore.step_eq_ok_iff.mpr ⟨by decide +kernel, rfl, rfl⟩
    have hkept : ∀ j < 5, ∀ k < 3, ¬(keptRegisters.moment meanwhile j).Overwrites (0xFFD + k) := by
      decide +kernel
    obtain ⟨loaded, hload, hbelow, -, -⟩ := (stored_registers_reload hstep).1 hstore meanwhile
      (by decide +kernel)
      (fun j a hj hfirst hlast ↦ by
        obtain ⟨hjlt, -⟩ := List.getElem?_eq_some_iff.mp hj
        obtain ⟨k, rfl⟩ : ∃ k, a = 0xFFD + k := Nat.exists_eq_add_of_le hfirst
        exact hkept j hjlt k (Nat.lt_succ_of_le (Nat.le_of_add_le_add_left hlast)))
      _ (.ofNat 1) rfl (by decide +kernel) (by decide +kernel) (by decide)
    exact ⟨loaded, hload, by decide +kernel, hbelow (.ofNat 0) (by decide)⟩
  · have hstore : (keptRegisters.moment meanwhile 3).StandsAt (.storeDecimal (.ofNat 1)) := by
      decide +kernel
    have hrefusal :
        (keptRegisters.moment meanwhile 3).refusal? (.storeDecimal (.ofNat 1)) = none := by
      decide +kernel
    have hstep := hstore.step_eq_ok_iff.mpr ⟨hrefusal, rfl, rfl⟩
    obtain ⟨-, hundreds, tens, units, -, -, -, hsum, -, htens, -⟩ :=
      (stored_registers_reload hstep).2 hstore
    have hvalue : ((keptRegisters.moment meanwhile 3).reg (.ofNat 1)).toNat = 57 := by
      decide +kernel
    have hindex : (keptRegisters.moment meanwhile 3).index.toNat = 0x20 := by decide +kernel
    rw [hindex] at htens
    exact ⟨_, hstep, hundreds, tens, units, hsum.trans hvalue, htens⟩

end Machine

end ChipEight
