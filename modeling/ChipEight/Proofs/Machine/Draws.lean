import ChipEight.Proofs.Instruction.Words
import ChipEight.Proofs.Machine.Operation
import ChipEight.Proofs.Snapshot.Restoring
import Mathlib.Data.List.Range

/-!
# The draws of a run

The instruction `Cxnn` takes a word from the random stream, and nothing else does. So the stream is
used up word by word in the order in which these instructions are executed, whatever happens between
them: the machine may be reset, loaded anew or replaced by a snapshot, and cycles may fail.

`Machine.drawings` lists the executed instructions `Cxnn` of a run together with what each of them
left in its register. It reads the words that are fetched and not the decoded instructions. One
operation moves the source by the length of its own list; the law for a run follows by adding up.
-/

namespace ChipEight

namespace RandomSource

/-- The words of the stream are those of its blocks, block after block. -/
theorem map_word_range (seed : UInt64) (blocks : ℕ) :
    (List.range (16 * blocks)).map (word seed)
      = (List.range blocks).flatMap fun counter ↦ (startState seed counter).block.toList := by
  induction blocks with
  | zero => rfl
  | succ blocks ih =>
    have hblock : (List.range 16).map (fun i ↦ word seed (16 * blocks + i))
        = (startState seed blocks).block.toList := by
      refine List.ext_getElem (by simp) fun i hi _ ↦ ?_
      have hi : i < 16 := by simpa using hi
      have hdiv : (16 * blocks + i) / 16 = blocks := by omega
      have hmod : Fin.ofNat 16 (16 * blocks + i) = ⟨i, hi⟩ := Fin.ext (by simp; omega)
      simp only [List.getElem_map, List.getElem_range, word, hdiv, hmod, Vector.getElem_toList]
      rfl
    have hrange : List.range (blocks + 1) = List.range blocks ++ [blocks] := List.range_succ
    rw [Nat.mul_succ, List.range_add, List.map_append, ih, hrange, List.flatMap_append,
      List.map_map]
    simpa [Function.comp_def] using hblock

end RandomSource

/-! ## Instructions that draw -/

namespace Instruction

/-- The register and the mask in a word of the form `Cxnn`. -/
def drawing? (word : UInt16) : Option (Nibble × UInt8) :=
  if word >>> 12 = 0xC then some (Nibble.low (word >>> 8), word.toUInt8) else none

theorem decode_of_drawing {word : UInt16} {x : Nibble} {nn : UInt8}
    (h : drawing? word = some (x, nn)) : decode word = .random x nn := by
  obtain ⟨hfamily, heq⟩ := Option.ite_none_right_eq_some.mp h
  obtain ⟨rfl, rfl⟩ := Prod.mk.inj (Option.some.inj heq)
  exact decode_of_fits ⟨(Word.shiftRight_eq_iff word).mp hfamily, Word.low_x word,
    Word.toUInt8_eq_nn word⟩

theorem decode_of_no_drawing {word : UInt16} (h : drawing? word = none) (x : Nibble) (nn : UInt8) :
    decode word ≠ .random x nn := by
  have hfamily : word >>> 12 ≠ 0xC := by simpa [drawing?] using h
  intro hdecode
  exact hfamily ((Word.shiftRight_eq_iff word).mpr (decode_eq_iff.mp hdecode).1)

end Instruction

/-- An executed instruction `Cxnn`. -/
structure Drawing where
  register : Nibble
  mask : UInt8
  /-- What the register holds afterwards. -/
  result : UInt8
  deriving DecidableEq, Repr

namespace Machine

/-- The register and the mask of the instruction `Cxnn` that an operation executes, if it executes
one. -/
def drawing? (m : Machine) : Operation → Option (Nibble × UInt8)
  | .step =>
    match m.fetch with
    | .ok word => Instruction.drawing? word
    | .error _ => none
  | _ => none

/-- The instruction `Cxnn` that an operation executes, as a list of at most one. -/
def drawn (m : Machine) (op : Operation) : List Drawing :=
  (m.drawing? op).toList.map fun (x, nn) ↦ ⟨x, nn, (m.apply op).2.reg x⟩

/-- The instructions `Cxnn` that are executed while operations are done one after the other. -/
def drawings : List Operation → Machine → List Drawing
  | [], _ => []
  | op :: ops, m => m.drawn op ++ drawings ops (m.apply op).2

variable {m : Machine} {op : Operation}

/-! ## One operation -/

theorem random_reset (m : Machine) : m.reset.random = m.random := by
  rw [reset, powerOn]

theorem random_load (m : Machine) (program : List UInt8) :
    (m.load program).1.random = m.random := by
  rw [load]
  split <;> simp only [random_reset]

/-- An executed `Cxnn` leaves the next byte, masked, in its register and the source one byte
further. -/
theorem apply_of_drawing {x : Nibble} {nn : UInt8} (h : m.drawing? op = some (x, nn)) :
    (m.apply op).2.reg x = m.random.next.1 &&& nn ∧ (m.apply op).2.random = m.random.next.2 := by
  cases op with
  | step =>
    cases hf : m.fetch with
    | error fault => simp [drawing?, hf] at h
    | ok word =>
      have hdecode : Instruction.decode word = .random x nn :=
        Instruction.decode_of_drawing (by simpa [drawing?, hf] using h)
      rw [apply_step_of_commit hf (by rw [hdecode]; rfl), hdecode]
      exact ⟨reg_setReg_self m.advance x _, rfl⟩
  | _ => cases h

theorem random_apply_of_no_drawing (h : m.drawing? op = none) :
    (m.apply op).2.random = m.random := by
  cases op with
  | step =>
    cases hf : m.fetch with
    | error fault => rw [apply_step_of_fetch_error hf]
    | ok word =>
      cases hr : m.refusal? (Instruction.decode word) with
      | some fault => rw [apply_step_of_refusal hf hr]
      | none =>
        have hnone : Instruction.drawing? word = none := by simpa [drawing?, hf] using h
        have hother := Instruction.decode_of_no_drawing hnone
        rw [apply_step_of_commit hf hr]
        exact (m.commit_frame _).random hother
  | load program => exact random_load m program
  | restore s =>
    rcases Nat.lt_or_ge stackDepth s.stack.length with hdeep | hdepth
    · rw [apply, restore_of_lt m hdeep]
    · obtain ⟨after, hafter, -, hrandom⟩ := restore_of_le m hdepth
      rw [apply, hafter]
      exact hrandom
  | reset => exact random_reset m
  | tickTimers => rfl
  | setKey key down => rfl

/-- The source after an operation has moved by the length of the operation's list. -/
theorem random_apply (m : Machine) (op : Operation) :
    (m.apply op).2.random = { m.random with drawn := m.random.drawn + (m.drawn op).length } := by
  cases h : m.drawing? op with
  | none => simp [drawn, h, random_apply_of_no_drawing h]
  | some drawing => simp [drawn, h, (apply_of_drawing h).2, RandomSource.next]

theorem result_drawn (m : Machine) (op : Operation) :
    (m.drawn op).map (·.result) = (m.drawn op).mapIdx fun k d ↦
      RandomSource.byteAt m.random.seed (m.random.drawn + k) &&& d.mask := by
  cases h : m.drawing? op with
  | none => simp [drawn, h]
  | some drawing => simp [drawn, h, (apply_of_drawing h).1, RandomSource.next]

/-! ## Many operations -/

theorem random_applyAll (ops : List Operation) (m : Machine) :
    (m.applyAll ops).random
      = { m.random with drawn := m.random.drawn + (m.drawings ops).length } := by
  induction ops generalizing m with
  | nil => rfl
  | cons op ops ih =>
    rw [applyAll, ih, random_apply, drawings, List.length_append, Nat.add_assoc]

/-- The draws of a run take consecutive bytes, from the first one that has not been drawn on. -/
theorem result_drawings (ops : List Operation) (m : Machine) :
    (m.drawings ops).map (·.result) = (m.drawings ops).mapIdx fun k d ↦
      RandomSource.byteAt m.random.seed (m.random.drawn + k) &&& d.mask := by
  induction ops generalizing m with
  | nil => rfl
  | cons op ops ih =>
    rw [drawings, List.map_append, List.mapIdx_append, result_drawn, ih, random_apply]
    -- what the later operations count from is behind the bytes of the first one
    simp only [Nat.add_assoc, Nat.add_comm (m.drawn op).length]

/-- **Draws follow the stream.** Whatever operations are done to a machine with a seed, its
instruction `Cxnn` number `k`, counted from zero, leaves the low byte of word number `k` of the
stream in its register, masked by `nn`. The source has then been moved by these instructions alone,
once by each. The words of the stream are those of its blocks, sixteen to a block. -/
theorem draws_follow_stream (seed : UInt64) (ops : List Operation) :
    ((ofSeed seed).drawings ops).map (·.result)
        = ((ofSeed seed).drawings ops).mapIdx
          (fun k d ↦ (RandomSource.word seed k).toUInt8 &&& d.mask) ∧
      ((ofSeed seed).applyAll ops).random = ⟨seed, ((ofSeed seed).drawings ops).length⟩ ∧
      ∀ blocks, (List.range (16 * blocks)).map (RandomSource.word seed)
        = (List.range blocks).flatMap fun counter ↦
          (RandomSource.startState seed counter).block.toList := by
  have hsource : (ofSeed seed).random = ⟨seed, 0⟩ := by
    rw [ofSeed, powerOn, RandomSource.ofSeed]
  refine ⟨?_, ?_, RandomSource.map_word_range seed⟩
  · have hresult := result_drawings ops (ofSeed seed)
    rw [hsource] at hresult
    simpa only [RandomSource.byteAt, Nat.zero_add] using hresult
  · rw [random_applyAll, hsource, Nat.zero_add]

/-- The first word of the stream of seed `0`. The rounds are computed four at a time, since only a
state that is written out in full is not evaluated anew for each of its uses. -/
example : RandomSource.word 0 0 = 0xCD2C6F7F := by
  have h4 : Nat.repeat ChaChaState.doubleRound 2 (RandomSource.startState 0 0)
      = #v[0x61C1291E, 0x117B4E11, 0x0D865B92, 0xF3A5CD6E, 0x3B135A3C, 0xC382132B, 0x92E2E386,
        0x910DA9B1, 0x9BA0C10D, 0xBAAC021D, 0x5F3CCD95, 0x4226D746, 0x4425918D, 0x6B973FCD,
        0xA025C3B5, 0x4BC9FD40] := by
    decide +kernel
  have h8 : Nat.repeat ChaChaState.doubleRound 4 (RandomSource.startState 0 0)
      = #v[0x4629C307, 0x826592F9, 0x41769305, 0x0C263FEB, 0x886EB3FA, 0x6D2D57B1, 0x1C5497F5,
        0x61FAB39E, 0x4E5E75A9, 0x79264F34, 0x219414CB, 0x8E3089F4, 0x6A2E923C, 0xD438539D,
        0xD2D368BA, 0xEF781C7D] := by
    rw [Nat.repeat, Nat.repeat, h4]
    decide +kernel
  have h12 : Nat.repeat ChaChaState.doubleRound 6 (RandomSource.startState 0 0)
      = #v[0x6BBBF71A, 0x8809DB44, 0x14C53C49, 0x5AE11720, 0xD5BD172A, 0xC0D00B81, 0x389F0649,
        0xE81EC917, 0xFB3DAA41, 0xDB368621, 0xAC872830, 0xC723643A, 0x12037913, 0x37FC854F,
        0xC9FF61C7, 0xCB30CE1A] := by
    rw [Nat.repeat, Nat.repeat, h8]
    decide +kernel
  rw [RandomSource.word, Nat.zero_div, ChaChaState.block, h12]
  decide +kernel

/-- The draws of a program that is loaded twice, with a cycle that fails after a reset in
between. -/
example :
    ((ofSeed 7).drawings [.load [0xC0, 0x00, 0xC1, 0x0F], .step, .reset, .step,
      .load [0xC2, 0xFF, 0xC3, 0x0F], .step, .tickTimers, .step]).map (fun d ↦ (d.register, d.mask))
      = [(.ofNat 0, 0x00), (.ofNat 2, 0xFF), (.ofNat 3, 0x0F)] := by
  decide +kernel

end Machine

end ChipEight
