import ChipEight.Proofs.Guarded.Drawing
import ChipEight.Proofs.Machine.Reachable
import Mathlib.Data.List.Basic

/-!
# The guarded cycle

One cycle with all the checks that its operations need: where the four nibbles of a word are taken
apart, where registers and keys are looked up, where addresses are added and where blocks of bytes
are copied between memory and the registers.

Each part equals the guarded form of the part of `Procedure.cycle` it belongs to, so none of the
checks can fail. What makes them succeed was established elsewhere in most cases: the masks of the
decoder bound the nibbles and the address of an offset jump, the test for the end of memory bounds
every range that is copied, and a nibble is an index into sixteen registers or keys. An instruction
is more than a decoded word, though: one that was built by hand may well trap.
-/

namespace ChipEight

namespace Guarded

/-! ## Decoding -/

/-- The instruction of a word, whose nibbles are masked and shifted to the right. -/
def decode (w : UInt16) : Except Trap Instruction := do
  let family := ((w &&& 0xF000) >>> 12).toUInt8
  let x ← nibble ((w &&& 0x0F00) >>> 8).toUInt8
  let y ← nibble ((w &&& 0x00F0) >>> 4).toUInt8
  let n ← nibble (w &&& 0x000F).toUInt8
  let nn := (w &&& 0x00FF).toUInt8
  let nnn := w &&& 0x0FFF
  match family.toNat with
  | 0x0 =>
    match nn.toNat with
    | 0xE0 => return .clear
    | 0xEE => return .ret
    | _ => return .unknown w
  | 0x1 => return .jump nnn
  | 0x2 => return .call nnn
  | 0x3 => return .skipEqualByte x nn
  | 0x4 => return .skipUnequalByte x nn
  | 0x5 => return .skipEqual x y
  | 0x6 => return .setByte x nn
  | 0x7 => return .addByte x nn
  | 0x8 =>
    match ArithOp.ofNibble? n with
    | some op => return .arith op x y
    | none => return .unknown w
  | 0x9 => return .skipUnequal x y
  | 0xA => return .setIndex nnn
  | 0xB => return .jumpOffset nnn
  | 0xC => return .random x nn
  | 0xD => return .draw x y n
  | 0xE =>
    match nn.toNat with
    | 0x9E => return .skipPressed x
    | 0xA1 => return .skipNotPressed x
    | _ => return .unknown w
  | 0xF =>
    match nn.toNat with
    | 0x07 => return .readDelay x
    | 0x0A => return .awaitKey x
    | 0x15 => return .setDelay x
    | 0x18 => return .setSound x
    | 0x1E => return .addIndex x
    | 0x29 => return .pointGlyph x
    | 0x33 => return .storeDecimal x
    | 0x55 => return .storeRegisters x
    | 0x65 => return .loadRegisters x
    | _ => return .unknown w
  | _ => throw .unreachable

theorem val_low_shiftRight (w k : UInt16) (hk : k.toNat < 16) :
    (Nibble.low (w >>> k)).val = (w.toNat >>> k.toNat) % 16 := by
  rw [Nibble.low, Nibble.ofNat, UInt16.toNat_shiftRight, Nat.mod_eq_of_lt hk]

/-- A nibble of a word, masked where it is and shifted to the right, is the one that is cut out
after shifting. -/
theorem toUInt8_and_shiftRight (w mask k : UInt16) (hk : k.toNat < 16)
    (hmask : mask.toNat >>> k.toNat = 15) :
    ((w &&& mask) >>> k).toUInt8 = (Nibble.low (w >>> k)).toByte := by
  have hlow := val_low_shiftRight w k hk
  have hand : ∀ n : ℕ, n &&& 15 = n % 16 := fun n ↦ Nat.and_two_pow_sub_one_eq_mod n 4
  refine UInt8.toNat_inj.mp ?_
  rw [UInt16.toNat_toUInt8, UInt16.toNat_shiftRight, UInt16.toNat_and, Nat.mod_eq_of_lt hk,
    Nat.shiftRight_and_distrib, hmask, hand, Nibble.toByte, hlow, UInt8.toNat_ofNat']

theorem toUInt8_and_ff (w : UInt16) : (w &&& 0x00FF).toUInt8 = w.toUInt8 := by
  have hand : w.toNat &&& 255 = w.toNat % 256 := Nat.and_two_pow_sub_one_eq_mod w.toNat 8
  refine UInt8.toNat_inj.mp ?_
  rw [UInt16.toNat_toUInt8, UInt16.toNat_toUInt8, UInt16.toNat_and]
  exact (congrArg (· % 256) hand).trans (Nat.mod_mod _ _)

/-- **Every word is decoded.** The nibbles are nibbles, and there are no more than sixteen
families. -/
theorem decode_eq (w : UInt16) : decode w = .ok (Instruction.decode w) := by
  have hfamily := toUInt8_and_shiftRight w 0xF000 12 (by decide) (by decide)
  have hx := toUInt8_and_shiftRight w 0x0F00 8 (by decide) (by decide)
  have hy := toUInt8_and_shiftRight w 0x00F0 4 (by decide) (by decide)
  have hn := toUInt8_and_shiftRight w 0x000F 0 (by decide) (by decide)
  rw [UInt16.shiftRight_zero, UInt16.shiftRight_zero] at hn
  rw [decode, Instruction.decode, hfamily, hx, hy, hn, toUInt8_and_ff, nibble_toByte, nibble_toByte,
    nibble_toByte, Nibble.toNat_toByte]
  simp only [ok_bind, pure_eq_ok]
  generalize Nibble.low (w >>> 12) = family
  obtain ⟨family, hfamily⟩ := family
  interval_cases family
  -- in four families the instruction depends on the rest of the word, in both in the same way
  case «8» => cases ArithOp.ofNibble? (Nibble.low w) <;> rfl
  case «0» | «14» | «15» =>
    simp only []
    split <;> simp only [*]
  all_goals rfl

/-! ## Registers, keys and memory -/

def readReg (x : Nibble) : Guarded UInt8 := do element (← get).v.toList x.val

def writeReg (x : Nibble) (b : UInt8) : Guarded Unit := do
  let v ← replace (← get).v x.val b
  modify fun m ↦ { m with v }

/-- The range of the `count` bytes from an address on. Fails unless they lie in memory. -/
def memoryRange (address : UInt16) (count : ℕ) : Guarded (ℕ × ℕ) := do
  let last ← add address.toNat count
  if memorySize < last then throw (.fault (.outsideMemory (max address.toNat memorySize)))
  return (address.toNat, last)

def fetch : Guarded UInt16 := do
  let (first, _) ← memoryRange (← get).pc 2
  let bytes := (← get).memory.toList
  let high ← element bytes first
  let low ← element bytes (← add first 1)
  return high.toUInt16 <<< 8 ||| low.toUInt16

def readKey (x : Nibble) : Guarded Bool := do
  let b ← readReg x
  match Nibble.ofByte? b with
  | some key => element (← get).keypad.toList key.val
  | none => throw (.fault (.noSuchKey b))

def lastPressed (keypad : Vector Bool 16) : Except Trap (Option ℕ) :=
  (List.range 16).foldlM (fun found key ↦ do
    return if ← element keypad.toList key then some key else found) none

/-- Writes bytes to a range of memory, which they must fill. -/
def writeBlock (range : ℕ × ℕ) (bytes : List UInt8) : Guarded Unit := do
  let memory ← overwrite (← get).memory range.1 range.2 bytes
  modify fun m ↦ { m with memory }

def combine (op : ArithOp) (x y : Nibble) : Guarded Unit := do
  let (result, bit?) := op.apply (← readReg x) (← readReg y)
  writeReg x result
  if let some bit := bit? then writeReg Machine.flag bit

/-! ## Instructions -/

def perform : Instruction → Guarded (UInt16 × Outcome)
  | .jumpOffset nnn => do
    let offset ← readReg (.ofNat 0)
    return (← addWord nnn offset.toUInt16, .proceed)
  | .skipEqualByte x nn => do return (← Procedure.skipIf ((← readReg x) == nn), .proceed)
  | .skipUnequalByte x nn => do return (← Procedure.skipIf ((← readReg x) != nn), .proceed)
  | .skipEqual x y => do return (← Procedure.skipIf ((← readReg x) == (← readReg y)), .proceed)
  | .skipUnequal x y => do return (← Procedure.skipIf ((← readReg x) != (← readReg y)), .proceed)
  | .setByte x nn => do
    writeReg x nn
    return (← Procedure.nextAddress, .proceed)
  | .addByte x nn => do
    writeReg x ((← readReg x) + nn)
    return (← Procedure.nextAddress, .proceed)
  | .addIndex x => do
    let index := (← get).index
    let value ← readReg x
    if 0x10000 ≤ index.toNat + value.toNat then throw (.fault (.indexOverflow index value))
    Procedure.writeIndex (index + value.toUInt16)
    return (← Procedure.nextAddress, .proceed)
  | .arith op x y => do
    combine op x y
    return (← Procedure.nextAddress, .proceed)
  | .random x nn => do
    writeReg x ((← Procedure.drawRandom) &&& nn)
    return (← Procedure.nextAddress, .proceed)
  | .draw x y n => do
    let column ← readReg x
    let row ← readReg y
    let (first, last) ← memoryRange (← get).index n.val
    let sprite ← slice (← get).memory.toList first last
    let (display, erased) ← draw (← get).display column.toNat row.toNat sprite
    modify fun m ↦ { m with display }
    writeReg Machine.flag (if erased then 1 else 0)
    return (← Procedure.nextAddress, .displayChanged)
  | .skipPressed x => do return (← Procedure.skipIf (← readKey x), .proceed)
  | .skipNotPressed x => do return (← Procedure.skipIf !(← readKey x), .proceed)
  | .awaitKey x => do
    match ← lastPressed (← get).keypad with
    | some key =>
      writeReg x (UInt8.ofNat key)
      return (← Procedure.nextAddress, .proceed)
    | none => return ((← get).pc, .awaitingKey)
  | .readDelay x => do
    writeReg x (← get).delay
    return (← Procedure.nextAddress, .proceed)
  | .setDelay x => do
    let delay ← readReg x
    modify fun m ↦ { m with delay }
    return (← Procedure.nextAddress, .proceed)
  | .setSound x => do
    let sound ← readReg x
    modify fun m ↦ { m with sound }
    return (← Procedure.nextAddress, .proceed)
  | .pointGlyph x => do
    let offset ← mulWord (← readReg x).toUInt16 Memory.glyphSize
    Procedure.writeIndex (← addWord 0 offset)
    return (← Procedure.nextAddress, .proceed)
  | .storeDecimal x => do
    let value ← readReg x
    let range ← memoryRange (← get).index 3
    writeBlock range (Machine.decimalDigits value)
    return (← Procedure.nextAddress, .proceed)
  | .storeRegisters x => do
    let count ← add x.val 1
    let range ← memoryRange (← get).index count
    writeBlock range (← slice (← get).v.toList 0 count)
    return (← Procedure.nextAddress, .proceed)
  | .loadRegisters x => do
    let count ← add x.val 1
    let (first, last) ← memoryRange (← get).index count
    let v ← overwrite (← get).v 0 count (← slice (← get).memory.toList first last)
    modify fun m ↦ { m with v }
    return (← Procedure.nextAddress, .proceed)
  -- the others use no array, and the sums they form are meant to wrap around
  | i => Procedure.perform i

def execute (i : Instruction) : Guarded Outcome := do
  let (address, outcome) ← perform i
  modify (·.jump address)
  return outcome

def cycle : Guarded Outcome := do
  let word ← fetch
  let instruction ← decode word
  let outcome ← execute instruction
  modify Machine.tickTimers
  return outcome

/-! ## No traps in the parts -/

@[simp] theorem readReg_eq (x : Nibble) : readReg x = (Procedure.readReg x).guarded := by
  simp only [readReg, Procedure.readReg, element_toList _ x.lt, liftM_ok, guarded_bind, guarded_get,
    guarded_pure]
  rfl

@[simp] theorem writeReg_eq (x : Nibble) (b : UInt8) :
    writeReg x b = (Procedure.writeReg x b).guarded := by
  simp only [writeReg, Procedure.writeReg, replace_of_lt _ x.lt, liftM_ok, guarded_modify]
  rfl

theorem combine_eq (op : ArithOp) (x y : Nibble) :
    combine op x y = (Procedure.combine op x y).guarded := by
  cases op <;>
    simp only [combine, Procedure.combine, ArithOp.apply, readReg_eq, writeReg_eq, guarded_bind,
      guarded_pure]

theorem run_readReg_bind {α : Type} (x : Nibble) (rest : UInt8 → Guarded α) (m : Machine) :
    ((Procedure.readReg x).guarded >>= rest).run m = (rest (m.reg x)).run m := rfl

theorem run_modify_bind {α : Type} (f : Machine → Machine) (rest : Unit → Guarded α) (m : Machine) :
    (modify f >>= rest).run m = (rest ()).run (f m) := rfl

theorem run_get_bind {α : Type} (rest : Machine → Guarded α) (m : Machine) :
    (get >>= rest).run m = (rest m).run m := rfl

theorem readKey_eq (x : Nibble) : readKey x = (Procedure.readKey x).guarded := by
  have hkey : ∀ (m : Machine) (key : Nibble),
      element m.keypad.toList key.val = .ok (m.isPressed key) :=
    fun m key ↦ element_toList m.keypad key.lt
  have hrun : ∀ m : Machine, (Procedure.readKey x).run m
      = (MonadExcept.ofExcept (m.keyIn x) : Procedure Bool).run m := fun _ ↦ rfl
  refine eq_guarded fun m ↦ ?_
  rw [hrun, readKey, readReg_eq, run_readReg_bind, Machine.keyIn]
  cases Nibble.ofByte? (m.reg x) with
  | some key =>
    simp only [hkey, liftM_ok]
    rfl
  | none => rfl

theorem foldl_lastFound {α β : Type} (p : α → Bool) (f : α → β) (xs : List α) (found : Option β) :
    xs.foldl (fun found x ↦ if p x then some (f x) else found) found
      = ((xs.filter p).getLast?.map f).or found := by
  induction xs using List.reverseRecOn with
  | nil => rfl
  | append_singleton xs x ih =>
    rw [List.foldl_append, List.foldl_cons, List.foldl_nil, ih, List.filter_append]
    cases h : p x <;> simp [h]

/-- Scanning the keys one after the other finds the last one that is pressed. -/
theorem lastPressed_eq (m : Machine) :
    lastPressed m.keypad = .ok (m.pressed.getLast?.map Fin.val) := by
  have hscan : ∀ (found : Option ℕ) (key : Fin 16),
      (do return if ← element m.keypad.toList key.val then some key.val else found)
        = (pure (if m.isPressed key then some key.val else found) : Except Trap (Option ℕ)) := by
    intro found key
    rw [element_toList m.keypad key.isLt]
    rfl
  rw [lastPressed, ← List.map_coe_finRange_eq_range, List.foldlM_map]
  simp only [hscan]
  rw [List.foldlM_pure, foldl_lastFound, Option.or_none]
  rfl

theorem element_memory (mem : Memory) {address : ℕ} (h : address < memorySize) :
    element mem.toList address = .ok (mem.byte address) := by
  rw [element_toList mem h, Memory.byte, Vector.getElem?_eq_getElem h, Option.getD_some]

theorem slice?_memory (mem : Memory) {first count : ℕ} (h : first + count ≤ memorySize) :
    slice? mem.toList first (first + count) = some (mem.block first count) := by
  rw [slice?_toList mem (Nat.le_add_right _ _) h, Nat.add_sub_cancel_left,
    Memory.take_drop_toList mem h]

theorem slice_memory (mem : Memory) {first count : ℕ} (h : first + count ≤ memorySize) :
    slice mem.toList first (first + count) = .ok (mem.block first count) := by
  rw [slice, slice?_memory mem h]

theorem getElem_write (mem : Memory) (first : ℕ) (bytes : List UInt8) {k : ℕ}
    (hk : k < memorySize) :
    (mem.write first bytes)[k] = if first ≤ k then bytes[k - first]?.getD mem[k] else mem[k] := by
  induction bytes generalizing mem first with
  | nil => simp [Memory.write]
  | cons b bytes ih =>
    rw [Memory.write, ih, Vector.getElem_setIfInBounds]
    rcases Nat.lt_trichotomy k first with hlt | rfl | hgt
    · rw [if_neg (by omega), if_neg (by omega), if_neg (by omega)]
    · rw [if_neg (by omega), if_pos rfl, if_pos (Nat.le_refl k), Nat.sub_self]
      rfl
    · rw [if_pos (by omega), if_neg (by omega), if_pos (by omega),
        show k - first = k - (first + 1) + 1 by omega, List.getElem?_cons_succ]

theorem overwrite_memory (mem : Memory) {first : ℕ} {bytes : List UInt8}
    (h : first + bytes.length ≤ memorySize) :
    overwrite mem first (first + bytes.length) bytes = .ok (mem.write first bytes) := by
  rw [overwrite_of_le mem first bytes h]
  refine congrArg Except.ok (Vector.ext fun k hk ↦ ?_)
  rw [Vector.getElem_ofFn, getElem_write]
  rfl

theorem overwrite_registers (m : Machine) (x : Nibble) :
    overwrite m.v 0 (x.val + 1) (m.memory.block m.index.toNat (x.val + 1))
      = .ok (m.fillRegisters x) := by
  have hlength : (m.memory.block m.index.toNat (x.val + 1)).length = x.val + 1 := by
    simp [Memory.block]
  have hcopy := overwrite_of_le m.v 0 (m.memory.block m.index.toNat (x.val + 1))
    (by have := x.lt; omega)
  rw [hlength, Nat.zero_add] at hcopy
  rw [hcopy]
  refine congrArg Except.ok (Vector.ext fun k hk ↦ ?_)
  rw [Vector.getElem_ofFn, Machine.fillRegisters, Vector.getElem_ofFn, if_pos (Nat.zero_le _)]
  by_cases hkx : k ≤ x.val
  · have hbyte := Memory.getElem?_block_eq_some_iff.mpr
      ⟨Nat.lt_succ_of_le hkx, (rfl : m.memory.byte (m.index.toNat + k) = _)⟩
    rw [Nat.sub_zero, hbyte, if_pos hkx]
    rfl
  · rw [if_neg hkx, List.getElem?_eq_none (by simp only [hlength]; omega)]
    rfl

/-- A procedure that begins with a range of memory fails if it reaches outside, or goes on with the
addresses of the range. -/
theorem run_memoryRange_bind {α : Type} (address : UInt16) {count : ℕ} (hcount : count < 0x10000)
    (rest : ℕ × ℕ → Guarded α) (m : Machine) :
    (memoryRange address count >>= rest).run m
      = if address.toNat + count ≤ memorySize then
          (rest (address.toNat, address.toNat + count)).run m
        else .error (.fault (.outsideMemory (max address.toNat memorySize))) m := by
  have haddress := address.toNat_lt
  rw [memoryRange, add_of_lt (by omega), liftM_ok, pure_bind]
  by_cases h : address.toNat + count ≤ memorySize
  · rw [if_neg (Nat.not_lt.mpr h), if_pos h]
    rfl
  · rw [if_pos (Nat.lt_of_not_le h), if_neg h]
    rfl

/-- Where a block at `I` is checked, its range may be made instead. What follows has to agree only
if there is such a range. -/
theorem run_blockRange_bind {α : Type} (m : Machine) {count : ℕ} (hcount : count < 0x10000)
    {rest : ℕ × ℕ → Guarded α} {rest' : Unit → Procedure α}
    (h : m.index.toNat + count ≤ memorySize →
      (rest (m.index.toNat, m.index.toNat + count)).run m
        = Machine.untrapped ((rest' ()).run m)) :
    (memoryRange m.index count >>= rest).run m
      = Machine.untrapped ((Procedure.checkBlock count >>= rest').run m) := by
  rw [run_memoryRange_bind m.index hcount, Procedure.run_checkBlock_bind, Machine.blockFault?]
  by_cases hfits : m.index.toNat + count ≤ memorySize
  · rw [if_pos hfits, if_pos hfits]
    exact h hfits
  · rw [if_neg hfits, if_neg hfits]
    rfl

theorem perform_draw (x y n : Nibble) :
    perform (.draw x y n) = (Procedure.perform (.draw x y n)).guarded := by
  have hn := n.lt
  refine eq_guarded fun m ↦ ?_
  rw [perform, Procedure.perform, readReg_eq, readReg_eq, run_readReg_bind, run_readReg_bind,
    run_get_bind]
  refine run_blockRange_bind m (by omega) fun hfits ↦ ?_
  have hlength : (m.memory.block m.index.toNat n.val).length < 0x1000 := by
    simp [Memory.block]
    omega
  simp only [run_get_bind, slice_memory m.memory hfits, liftM_ok, pure_bind, draw_eq _ _ _ hlength,
    writeReg_eq]
  rfl

theorem run_writeBlock_bind {α : Type} (m : Machine) {bytes : List UInt8} {count : ℕ}
    (hlength : bytes.length = count) (h : m.index.toNat + count ≤ memorySize)
    (rest : Unit → Guarded α) :
    (writeBlock (m.index.toNat, m.index.toNat + count) bytes >>= rest).run m
      = ((Procedure.writeBlock bytes).guarded >>= rest).run m := by
  subst hlength
  rw [writeBlock, bind_assoc, run_get_bind, overwrite_memory m.memory h]
  rfl

theorem perform_storeDecimal (x : Nibble) :
    perform (.storeDecimal x) = (Procedure.perform (.storeDecimal x)).guarded := by
  refine eq_guarded fun m ↦ ?_
  rw [perform, Procedure.perform, readReg_eq, run_readReg_bind, run_get_bind]
  refine run_blockRange_bind m (by decide) fun hfits ↦ ?_
  have hlength : (Machine.decimalDigits (m.reg x)).length = 3 := rfl
  rw [run_writeBlock_bind m hlength hfits]
  rfl

theorem perform_storeRegisters (x : Nibble) :
    perform (.storeRegisters x) = (Procedure.perform (.storeRegisters x)).guarded := by
  have hx := x.lt
  refine eq_guarded fun m ↦ ?_
  rw [perform, Procedure.perform, add_of_lt (by omega), liftM_ok, pure_bind, run_get_bind]
  refine run_blockRange_bind m (by omega) fun hfits ↦ ?_
  have hregisters : slice m.v.toList 0 (x.val + 1) = .ok (m.firstRegisters x) :=
    slice_toList m.v (Nat.zero_le _) hx
  have hlength : (m.firstRegisters x).length = x.val + 1 := by
    rw [Machine.firstRegisters, List.length_take, Vector.length_toList]
    omega
  rw [run_get_bind, hregisters, liftM_ok, pure_bind, run_writeBlock_bind m hlength hfits]
  rfl

theorem perform_loadRegisters (x : Nibble) :
    perform (.loadRegisters x) = (Procedure.perform (.loadRegisters x)).guarded := by
  have hx := x.lt
  refine eq_guarded fun m ↦ ?_
  rw [perform, Procedure.perform, add_of_lt (by omega), liftM_ok, pure_bind, run_get_bind]
  refine run_blockRange_bind m (by omega) fun hfits ↦ ?_
  simp only [run_get_bind, slice_memory m.memory hfits, liftM_ok, pure_bind, overwrite_registers]
  rfl

theorem perform_awaitKey (x : Nibble) :
    perform (.awaitKey x) = (Procedure.perform (.awaitKey x)).guarded := by
  refine eq_guarded fun m ↦ ?_
  rw [perform, Procedure.perform, run_get_bind, lastPressed_eq, liftM_ok, pure_bind,
    EStateM.run_bind, EStateM.run_get]
  dsimp only
  cases m.pressed.getLast? with
  | some key =>
    simp only [Option.map_some, writeReg_eq]
    rfl
  | none => rfl

/-! ## No traps in a cycle -/

/-- An instruction traps nowhere, unless it is an offset jump from an address that no word holds. -/
theorem perform_eq {i : Instruction} (h : ∀ a, i.address? = some a → a.toNat ≤ 0xFFF) :
    perform i = (Procedure.perform i).guarded := by
  cases i with
  | jumpOffset nnn =>
    have hsum : ∀ b : UInt8, addWord nnn b.toUInt16 = .ok (nnn + b.toUInt16) := fun b ↦ by
      have hnnn := h nnn rfl
      have hb := b.toNat_lt
      exact addWord_of_lt (by rw [UInt8.toNat_toUInt16]; omega)
    simp [perform, Procedure.perform, hsum]
  | pointGlyph x =>
    have hproduct : ∀ b : UInt8, mulWord b.toUInt16 Memory.glyphSize
        = .ok (b.toUInt16 * Memory.glyphSize) := fun b ↦ by
      have hb := b.toNat_lt
      have hsize : Memory.glyphSize.toNat = 5 := rfl
      exact mulWord_of_lt (by rw [UInt8.toNat_toUInt16, hsize]; omega)
    have hsum : ∀ a : UInt16, addWord 0 a = .ok a := fun a ↦ by
      rw [addWord_of_lt (by simpa using a.toNat_lt), UInt16.zero_add]
    simp [perform, Procedure.perform, hproduct, hsum]
  | arith op x y => simp [perform, Procedure.perform, combine_eq]
  | draw x y n => exact perform_draw x y n
  | skipPressed x => simp [perform, Procedure.perform, readKey_eq]
  | skipNotPressed x => simp [perform, Procedure.perform, readKey_eq]
  | awaitKey x => exact perform_awaitKey x
  | storeDecimal x => exact perform_storeDecimal x
  | storeRegisters x => exact perform_storeRegisters x
  | loadRegisters x => exact perform_loadRegisters x
  | setDelay x => simp [perform, Procedure.perform]; rfl
  | setSound x => simp [perform, Procedure.perform]; rfl
  | _ => simp [perform, Procedure.perform]

/-- An offset jump that was built by hand leaves the addresses there are. -/
example :
    (match (perform (.jumpOffset 0xFFFF)).run
        { Machine.powerOn ⟨0, 0⟩ with v := Vector.replicate 16 1 } with
      | .error (.trap trap) _ => some trap
      | _ => none) = some .overflow := by
  rfl

theorem execute_eq {i : Instruction} (h : ∀ a, i.address? = some a → a.toNat ≤ 0xFFF) :
    execute i = (Procedure.execute i).guarded := by
  simp [execute, Procedure.execute, perform_eq h]

theorem run_fetch_bind {α : Type} (rest : UInt16 → Guarded α) (m : Machine) :
    (fetch >>= rest).run m
      = match m.fetch with
        | .ok word => (rest word).run m
        | .error fault => .error (.fault fault) m := by
  rw [fetch, bind_assoc, run_get_bind, bind_assoc, run_memoryRange_bind m.pc (by decide),
    Machine.fetch, Memory.check]
  split
  · next h =>
    have hhigh := element_memory m.memory (show m.pc.toNat < memorySize by omega)
    have hlow := element_memory m.memory (show m.pc.toNat + 1 < memorySize by omega)
    have hsum : add m.pc.toNat 1 = .ok (m.pc.toNat + 1) :=
      add_of_lt (by have := m.pc.toNat_lt; omega)
    simp only [bind_assoc, run_get_bind, hhigh, hsum, hlow, liftM_ok, pure_bind]
    rfl
  · rfl

/-- **A cycle traps nowhere.** -/
theorem cycle_eq : cycle = Procedure.cycle.guarded := by
  refine eq_guarded fun m ↦ ?_
  rw [cycle, run_fetch_bind, Procedure.cycle, EStateM.run_bind, EStateM.run_get]
  dsimp only
  cases m.fetch with
  | ok word =>
    have hexecute := execute_eq fun _ ↦ Instruction.address_le_of_decode (w := word)
    change _ = Machine.untrapped ((do
      let outcome ← Procedure.execute (Instruction.decode word)
      modify Machine.tickTimers
      return outcome : Procedure Outcome).run m)
    rw [← run_guarded]
    simp [decode_eq, hexecute]
  | error fault => rfl

end Guarded

end ChipEight
