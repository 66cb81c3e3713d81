import ChipEight.Proofs.Instruction.Words
import ChipEight.Proofs.Machine.Transaction
import ChipEight.Proofs.Memory.Writing

/-!
# Refusals

Memory aside, there are five reasons for a cycle to fail: the word is no instruction, there is no
call to return from, there is no room for another call, the register names no key, or the index
register overflows. Each of them is a property of the word at the program counter and of the part of
the machine that the instruction looks at. This file gives the five as conditions, in both
directions: a cycle fails for one of these reasons exactly if its condition holds, and if none does,
a word that reads or writes no block of memory is executed.

The word is taken from the two bytes at the program counter, and its instruction from the patterns
in `Instruction.Fits`, so no decoder is part of the conditions.
-/

namespace ChipEight

open Word

namespace Machine

/-- The two bytes at the program counter are those of a word, the high one first. -/
def AtWord (m : Machine) (w : UInt16) : Prop :=
  w.toNat = 0x100 * (m.memory.byte m.pc.toNat).toNat + (m.memory.byte (m.pc.toNat + 1)).toNat

def FailsWith (m : Machine) (fault : Fault) : Prop := ∃ after, m.step = .error fault after

instance (m : Machine) (w : UInt16) : Decidable (m.AtWord w) :=
  inferInstanceAs (Decidable (w.toNat = _))

variable {m : Machine} {w : UInt16} {i : Instruction} {fault : Fault}

/-! ## The word at the program counter -/

theorem fetch_of_atWord (hpc : m.pc.toNat ≤ 0xFFE) (hw : m.AtWord w) : m.fetch = .ok w := by
  refine fetch_eq_ok_iff.mpr ⟨by rw [memorySize]; omega, UInt16.toNat_inj.mp ?_⟩
  rw [Memory.toNat_word, hw]

theorem atWord_of_fetch (h : m.fetch = .ok w) : m.pc.toNat ≤ 0xFFE ∧ m.AtWord w := by
  obtain ⟨hpc, rfl⟩ := fetch_eq_ok_iff.mp h
  rw [memorySize] at hpc
  exact ⟨by omega, m.memory.toNat_word m.pc.toNat⟩

theorem commit_of_step {after : Machine} {outcome : Outcome} (hw : m.AtWord w)
    (h : m.step = .ok outcome after) :
    m.pc.toNat ≤ 0xFFE ∧ m.refusal? (Instruction.decode w) = none ∧
      (m.commit (Instruction.decode w)).2 = outcome ∧
      (m.commit (Instruction.decode w)).1.tickTimers = after := by
  obtain ⟨word, hfetch, hcommit⟩ := step_eq_ok_iff.mp h
  obtain ⟨hpc, hword⟩ := atWord_of_fetch hfetch
  obtain rfl : word = w := UInt16.toNat_inj.mp (hword.trans hw.symm)
  exact ⟨hpc, hcommit⟩

/-- The word at the program counter fits the pattern of an instruction, and both of its bytes lie in
memory. -/
def StandsAt (m : Machine) (i : Instruction) : Prop :=
  m.pc.toNat ≤ 0xFFE ∧ ∃ w, m.AtWord w ∧ i.Fits w

theorem standsAt_iff : m.StandsAt i ↔ ∃ word, m.fetch = .ok word ∧ Instruction.decode word = i := by
  constructor
  · rintro ⟨hpc, word, hword, hi⟩
    exact ⟨word, fetch_of_atWord hpc hword, Instruction.decode_of_fits hi⟩
  · rintro ⟨word, hfetch, hi⟩
    obtain ⟨hpc, hword⟩ := atWord_of_fetch hfetch
    exact ⟨hpc, word, hword, Instruction.decode_eq_iff.mp hi⟩

theorem current?_eq_some_iff : m.current? = some i ↔ m.StandsAt i := by
  rw [standsAt_iff]
  cases hfetch : m.fetch with
  | ok word => simp [current?_of_fetch_ok hfetch]
  | error fault => simp [current?_of_fetch_error hfetch]

instance (m : Machine) (i : Instruction) : Decidable (m.StandsAt i) :=
  decidable_of_iff (m.current? = some i) current?_eq_some_iff

theorem StandsAt.step_eq_ok_iff (h : m.StandsAt i) {outcome : Outcome} {after : Machine} :
    m.step = .ok outcome after ↔
      m.refusal? i = none ∧ (m.commit i).2 = outcome ∧ (m.commit i).1.tickTimers = after := by
  obtain ⟨word, hfetch, rfl⟩ := standsAt_iff.mp h
  rw [Machine.step_eq_ok_iff, hfetch]
  simp

theorem failsWith_iff (h : m.fetch = .ok w) :
    m.FailsWith fault ↔ m.refusal? (Instruction.decode w) = some fault := by
  simp only [FailsWith, step_eq_error_iff, h]
  simp

/-! ## Reasons to refuse an instruction -/

theorem blockFault?_eq_some {count : ℕ} (h : m.blockFault? count = some fault) :
    ∃ a, fault = .outsideMemory a := by
  obtain ⟨-, heq⟩ := Option.ite_none_left_eq_some.mp h
  exact ⟨_, (Option.some.inj heq).symm⟩

theorem keyFault?_eq_some {r : Nibble} (h : m.keyFault? r = some fault) :
    15 < (m.reg r).toNat ∧ fault = .noSuchKey (m.reg r) := by
  obtain ⟨hno, heq⟩ := Option.ite_none_left_eq_some.mp h
  exact ⟨Nat.le_of_not_lt hno, (Option.some.inj heq).symm⟩

/-- The condition under which a word is refused with a fault that is not one of memory. -/
def Refuses (m : Machine) (w : UInt16) : Fault → Prop
  | .unknownInstruction word => word = w ∧ Unused w
  | .stackUnderflow => family w = 0x0 ∧ code w = 0xEE ∧ m.calls = []
  | .stackOverflow => family w = 0x2 ∧ 16 ≤ m.calls.length
  | .noSuchKey key =>
    family w = 0xE ∧ (code w = 0x9E ∨ code w = 0xA1) ∧ key = m.reg (x w) ∧ 15 < key.toNat
  | .indexOverflow index value =>
    family w = 0xF ∧ code w = 0x1E ∧ index = m.index ∧ value = m.reg (x w) ∧
      0xFFFF < index.toNat + value.toNat
  | _ => False

instance (m : Machine) (w : UInt16) : (fault : Fault) → Decidable (m.Refuses w fault)
  | .unknownInstruction word => inferInstanceAs (Decidable (word = w ∧ Unused w))
  | .stackUnderflow => inferInstanceAs (Decidable (family w = 0x0 ∧ _))
  | .stackOverflow => inferInstanceAs (Decidable (family w = 0x2 ∧ _))
  | .noSuchKey _ => inferInstanceAs (Decidable (family w = 0xE ∧ _))
  | .indexOverflow .. => inferInstanceAs (Decidable (family w = 0xF ∧ _))
  | .programTooLarge _ | .outsideMemory _ | .stackTooDeep _ => .isFalse id

/-- What an instruction is refused for, unless it is for want of memory, is a reason to refuse its
word. -/
theorem refuses_of_refusal? (hi : i.Fits w) (hfault : ∀ a, fault ≠ .outsideMemory a)
    (h : m.refusal? i = some fault) : m.Refuses w fault := by
  cases i with
  | ret =>
    obtain ⟨hcalls, heq⟩ := Option.ite_none_right_eq_some.mp h
    obtain rfl := Option.some.inj heq
    exact ⟨hi.1, hi.2, hcalls⟩
  | call nnn =>
    obtain ⟨hfull, heq⟩ := Option.ite_none_right_eq_some.mp h
    obtain rfl := Option.some.inj heq
    exact ⟨hi.1, hfull⟩
  | addIndex r =>
    obtain ⟨hlarge, heq⟩ := Option.ite_none_right_eq_some.mp h
    obtain rfl := Option.some.inj heq
    obtain ⟨hfamily, hcode, rfl⟩ := hi
    exact ⟨hfamily, hcode, rfl, rfl, hlarge⟩
  | skipPressed r =>
    obtain ⟨hno, rfl⟩ := keyFault?_eq_some h
    obtain ⟨hfamily, hcode, rfl⟩ := hi
    exact ⟨hfamily, .inl hcode, rfl, hno⟩
  | skipNotPressed r =>
    obtain ⟨hno, rfl⟩ := keyFault?_eq_some h
    obtain ⟨hfamily, hcode, rfl⟩ := hi
    exact ⟨hfamily, .inr hcode, rfl, hno⟩
  | draw | storeDecimal | storeRegisters | loadRegisters =>
    obtain ⟨a, rfl⟩ := blockFault?_eq_some h
    exact absurd rfl (hfault a)
  | unknown word =>
    obtain rfl := Option.some.inj h
    exact hi
  | _ => cases h

theorem word_of_outsideMemory {a : ℕ} (hi : i.Fits w)
    (h : m.refusal? i = some (.outsideMemory a)) :
    family w = 0xD ∨ family w = 0xF ∧ code w ∈ [0x33, 0x55, 0x65] := by
  cases i with
  | draw r s k => exact .inl hi.1
  | storeDecimal | storeRegisters | loadRegisters => exact .inr ⟨hi.1, by simp [hi.2.1]⟩
  | ret | call | addIndex =>
    obtain ⟨-, heq⟩ := Option.ite_none_right_eq_some.mp h
    cases heq
  | skipPressed | skipNotPressed =>
    obtain ⟨-, heq⟩ := keyFault?_eq_some h
    cases heq
  | _ => cases h

theorem refusal?_of_refuses (h : m.Refuses w fault) :
    m.refusal? (Instruction.decode w) = some fault := by
  cases fault with
  | unknownInstruction word => rw [Instruction.decode_of_fits (i := .unknown word) h, refusal?]
  | stackUnderflow =>
    obtain ⟨hfamily, hcode, hcalls⟩ := h
    rw [Instruction.decode_of_fits (i := .ret) ⟨hfamily, hcode⟩, refusal?, if_pos hcalls]
  | stackOverflow =>
    obtain ⟨hfamily, hfull⟩ := h
    rw [Instruction.decode_of_fits (i := .call _) ⟨hfamily, rfl⟩, refusal?]
    exact if_pos hfull
  | noSuchKey key =>
    obtain ⟨hfamily, hcode, rfl, hno⟩ := h
    have hkey : m.keyFault? (x w) = some (.noSuchKey (m.reg (x w))) := if_neg (by omega)
    rcases hcode with hcode | hcode
    · rw [Instruction.decode_of_fits (i := .skipPressed _) ⟨hfamily, hcode, rfl⟩, refusal?, hkey]
    · rw [Instruction.decode_of_fits (i := .skipNotPressed _) ⟨hfamily, hcode, rfl⟩, refusal?, hkey]
  | indexOverflow index value =>
    obtain ⟨hfamily, hcode, rfl, rfl, hlarge⟩ := h
    rw [Instruction.decode_of_fits (i := .addIndex _) ⟨hfamily, hcode, rfl⟩, refusal?]
    exact if_pos hlarge
  | programTooLarge | outsideMemory | stackTooDeep => exact h.elim

/-- **What a cycle fails for.** Let a word be at the program counter, with both of its bytes in
memory. The cycle fails with a fault that is not one of memory exactly if that is a reason to refuse
the word. If there is no such reason and the instruction reads or writes no block of memory, the
cycle succeeds. -/
theorem fails_iff_refuses (hpc : m.pc.toNat ≤ 0xFFE) (hw : m.AtWord w) :
    (∀ fault, (∀ a, fault ≠ .outsideMemory a) → (m.FailsWith fault ↔ m.Refuses w fault)) ∧
      (family w ≠ 0xD → ¬(family w = 0xF ∧ code w ∈ [0x33, 0x55, 0x65]) →
        (∀ fault, ¬m.Refuses w fault) → ∃ outcome after, m.step = .ok outcome after) := by
  have hfetch := fetch_of_atWord hpc hw
  constructor
  · intro fault hfault
    rw [failsWith_iff hfetch]
    exact ⟨refuses_of_refusal? (Instruction.fits_decode w) hfault, refusal?_of_refuses⟩
  · intro hdraw hblock hnone
    have hfits := Instruction.fits_decode w
    have hrefusal : m.refusal? (Instruction.decode w) = none := by
      rw [Option.eq_none_iff_forall_ne_some]
      intro fault hsome
      by_cases hfault : ∃ a, fault = .outsideMemory a
      · obtain ⟨a, rfl⟩ := hfault
        rcases word_of_outsideMemory hfits hsome with hD | hF
        · exact hdraw hD
        · exact hblock hF
      · exact hnone fault (refuses_of_refusal? hfits (not_exists.mp hfault) hsome)
    exact ⟨_, _, step_eq_ok_iff.mpr ⟨w, hfetch, hrefusal, rfl, rfl⟩⟩

/-- A machine at the last word of memory, about to add `0x10` to its index register. -/
def addingAtTheEnd (index : UInt16) : Machine :=
  { powerOn ⟨0, 0⟩ with
    memory := Memory.zero.write 0xFFE [0xF0, 0x1E]
    v := Vector.replicate 16 0x10
    index
    pc := 0xFFE }

/-- From `0xFFF0` on this is too much, and the cycle fails for that reason and for no other. Below,
it succeeds. -/
theorem fails_iff_refuses_addingAtTheEnd :
    (addingAtTheEnd 0xFFF0).FailsWith (.indexOverflow 0xFFF0 0x10) ∧
      ¬(addingAtTheEnd 0xFFF0).FailsWith .stackUnderflow ∧
      ∃ outcome after, (addingAtTheEnd 0xFFEF).step = .ok outcome after := by
  have hfaults := (fails_iff_refuses (m := addingAtTheEnd 0xFFF0) (w := 0xF01E) (by decide)
    (by decide +kernel)).1
  refine ⟨?_, ?_, ?_⟩
  · exact (hfaults _ fun _ ↦ by simp).mpr (by decide +kernel)
  · exact fun h ↦ absurd ((hfaults _ fun _ ↦ by simp).mp h) (by decide +kernel)
  · refine (fails_iff_refuses (m := addingAtTheEnd 0xFFEF) (w := 0xF01E) (by decide)
      (by decide +kernel)).2 (by decide) (by decide) fun fault h ↦ ?_
    cases fault with
    | unknownInstruction word => exact absurd h.2 (by decide)
    | indexOverflow index value =>
      obtain ⟨-, -, rfl, rfl, hlarge⟩ := h
      exact absurd hlarge (by decide)
    | programTooLarge | outsideMemory | stackTooDeep => exact h
    | _ => exact absurd h.1 (by decide)

end Machine

end ChipEight
