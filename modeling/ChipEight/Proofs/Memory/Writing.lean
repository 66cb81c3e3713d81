import ChipEight.Machine
import Mathlib.Data.Nat.Notation

/-!
# Bytes in memory

What is read from memory after bytes were written to it: the bytes that were written where they were
written, and what was there before everywhere else. The latter needs no room for the bytes, since
what does not fit is not written.

A word is read with its high byte first, and a block is what there is in memory from an address on.
-/

namespace ChipEight

namespace Memory

variable {mem : Memory} {start a : ℕ} {bytes : List UInt8}

/-- Two bytes put together are a number of two digits to the base 256. -/
theorem toNat_shiftLeft_or (high low : UInt8) :
    (high.toUInt16 <<< 8 ||| low.toUInt16).toNat = 0x100 * high.toNat + low.toNat := by
  have hhigh := high.toNat_lt
  have hlow := low.toNat_lt
  have hshift : (high.toUInt16 <<< 8).toNat = high.toNat <<< 8 := by
    have hlt : high.toNat <<< 8 < 0x10000 := by
      rw [Nat.shiftLeft_eq]
      omega
    rw [UInt16.toNat_shiftLeft, UInt8.toNat_toUInt16]
    exact Nat.mod_eq_of_lt hlt
  rw [UInt16.toNat_or, hshift, UInt8.toNat_toUInt16, ← Nat.shiftLeft_add_eq_or_of_lt hlow,
    Nat.shiftLeft_eq]
  omega

theorem toNat_word (mem : Memory) (a : ℕ) :
    (mem.word a).toNat = 0x100 * (mem.byte a).toNat + (mem.byte (a + 1)).toNat :=
  toNat_shiftLeft_or _ _

theorem getElem?_toList_eq_some_iff {b : UInt8} :
    mem.toList[a]? = some b ↔ a < memorySize ∧ mem.byte a = b := by
  rw [Vector.getElem?_toList]
  constructor
  · intro h
    obtain ⟨ha, rfl⟩ := Vector.getElem?_eq_some_iff.mp h
    exact ⟨ha, by rw [byte, h, Option.getD_some]⟩
  · rintro ⟨ha, rfl⟩
    rw [byte, Vector.getElem?_eq_getElem ha, Option.getD_some]

theorem getElem?_block_eq_some_iff {count k : ℕ} {b : UInt8} :
    (mem.block start count)[k]? = some b ↔ k < count ∧ mem.byte (start + k) = b := by
  simp only [block, List.getElem?_map, Option.map_eq_some_iff, List.getElem?_eq_some_iff,
    List.getElem_range, List.length_range]
  constructor
  · rintro ⟨_, ⟨hk, rfl⟩, hbyte⟩
    exact ⟨hk, hbyte⟩
  · rintro ⟨hk, hbyte⟩
    exact ⟨k, ⟨hk, rfl⟩, hbyte⟩

theorem take_drop_toList (mem : Memory) {count : ℕ} (h : start + count ≤ memorySize) :
    (mem.toList.drop start).take count = mem.block start count := by
  refine List.ext_getElem? fun k ↦ Option.ext fun b ↦ ?_
  rw [getElem?_block_eq_some_iff, List.getElem?_take, List.getElem?_drop]
  by_cases hk : k < count
  · rw [if_pos hk, getElem?_toList_eq_some_iff]
    exact and_congr_left' ⟨fun _ ↦ hk, fun _ ↦ by omega⟩
  · rw [if_neg hk]
    exact ⟨nofun, fun hin ↦ absurd hin.1 hk⟩

theorem byte_set_self (mem : Memory) (b : UInt8) (h : a < memorySize) :
    byte (mem.setIfInBounds a b) a = b := by
  simp [byte, h]

theorem byte_set_of_ne (mem : Memory) (b : UInt8) (h : start ≠ a) :
    byte (mem.setIfInBounds start b) a = mem.byte a := by
  simp [byte, h]

theorem byte_write_of_outside (h : a < start ∨ start + bytes.length ≤ a) :
    (mem.write start bytes).byte a = mem.byte a := by
  induction bytes generalizing mem start with
  | nil => rfl
  | cons b bytes ih =>
    rw [List.length_cons] at h
    rw [write, ih (by omega), byte_set_of_ne mem b (by omega)]

theorem byte_write (h : start + bytes.length ≤ memorySize) {k : ℕ} (hk : k < bytes.length) :
    (mem.write start bytes).byte (start + k) = bytes[k] := by
  induction bytes generalizing mem start k with
  | nil => cases hk
  | cons b bytes ih =>
    rw [List.length_cons] at h hk
    cases k with
    | zero =>
      rw [write, byte_write_of_outside (by omega)]
      exact byte_set_self mem b (by omega)
    | succ k =>
      have hnext : start + (k + 1) = start + 1 + k := by omega
      rw [write, hnext]
      exact ih (by omega) (by omega)

theorem block_write_of_le {first count : ℕ} (h : first + count ≤ start) :
    (mem.write start bytes).block first count = mem.block first count := by
  refine List.map_congr_left fun k hk ↦ byte_write_of_outside (.inl ?_)
  have := List.mem_range.mp hk
  omega

theorem block_write (h : start + bytes.length ≤ memorySize) :
    (mem.write start bytes).block start bytes.length = bytes := by
  refine List.ext_getElem (by simp [block]) fun k _ hk ↦ ?_
  simp only [block, List.getElem_map, List.getElem_range]
  exact byte_write h hk

end Memory

end ChipEight
