import ChipEight.Debugger
import ChipEight.Files.Tree
import ChipEight.Proofs.Machine.MemoryFaults

/-!
# Memory as the debugger shows it

A word of memory is put together in three places: a cycle fetches the word at the program counter, a
debugger looks the same word up for the instruction it displays, and on demand it lists the words
from any address on, which it takes two by two from the bytes there. Each of the three tests in its
own way where memory ends. This file says that they agree, at odd addresses and at the last byte of
memory as well, and that they agree with the bytes themselves, which the debugger shows on demand
too.

The bytes are what the statements are about: `Debugger.Shows` is what may be learned of memory by
asking for it, and the words of a listing and of a cycle are determined by that.
-/

namespace ChipEight

namespace Memory

variable {mem : Memory} {bytes : List UInt8} {start length k : ℕ} {w : UInt16} {i : Instruction}

/-! ## Words two by two -/

theorem length_pairs (bytes : List UInt8) : (pairs bytes).length = bytes.length / 2 := by
  fun_induction pairs bytes with
  | case1 high low rest ih =>
    simp only [List.length_cons, ih]
    omega
  | case2 bytes hshort =>
    match bytes, hshort with
    | [], _ => rfl
    | [_], _ => simp
    | high :: low :: rest, hshort => exact (hshort high low rest rfl).elim

theorem getElem?_pairs_eq_some_iff :
    (pairs bytes)[k]? = some w ↔ ∃ high low, bytes[2 * k]? = some high ∧
      bytes[2 * k + 1]? = some low ∧ high.toUInt16 <<< 8 ||| low.toUInt16 = w := by
  fun_induction pairs bytes generalizing k with
  | case1 high low rest ih =>
    cases k with
    | zero => simp
    | succ k => simp [ih, Nat.mul_succ]
  | case2 bytes hshort =>
    match bytes, hshort with
    | [], _ => simp
    | [_], _ => simp
    | high :: low :: rest, hshort => exact (hshort high low rest rfl).elim

theorem length_listing (mem : Memory) (start length : ℕ) :
    (mem.listing start length).length = min length ((memorySize - start) / 2) := by
  rw [listing, List.length_map, List.length_take, length_pairs, List.length_drop,
    Vector.length_toList]

/-- A word is listed as often as there is room for it, at every second address. -/
theorem getElem?_listing_eq_some_iff :
    (mem.listing start length)[k]? = some (w, i) ↔ k < length ∧
      start + 2 * k + 1 < memorySize ∧ mem.word (start + 2 * k) = w ∧ Instruction.decode w = i := by
  have hword : (pairs (mem.toList.drop start))[k]? = some w ↔
      start + 2 * k + 1 < memorySize ∧ mem.word (start + 2 * k) = w := by
    simp only [getElem?_pairs_eq_some_iff, List.getElem?_drop, getElem?_toList_eq_some_iff]
    constructor
    · rintro ⟨_, _, ⟨-, rfl⟩, ⟨hlow, rfl⟩, rfl⟩
      exact ⟨hlow, rfl⟩
    · rintro ⟨hlow, rfl⟩
      exact ⟨_, _, ⟨Nat.lt_of_succ_lt hlow, rfl⟩, ⟨hlow, rfl⟩, rfl⟩
  rw [listing, List.getElem?_map, List.getElem?_take]
  by_cases hk : k < length
  · rw [if_pos hk, Option.map_eq_some_iff]
    constructor
    · rintro ⟨_, hfound, heq⟩
      obtain ⟨rfl, rfl⟩ := Prod.mk.inj heq
      obtain ⟨hlow, hw⟩ := hword.mp hfound
      exact ⟨hk, hlow, hw, rfl⟩
    · rintro ⟨-, hlow, hw, rfl⟩
      exact ⟨w, hword.mpr ⟨hlow, hw⟩, rfl⟩
  · rw [if_neg hk]
    exact ⟨nofun, fun hlisted ↦ absurd hlisted.1 hk⟩

theorem listing_one (h : start + 1 < memorySize) :
    mem.listing start 1 = [(mem.word start, Instruction.decode (mem.word start))] := by
  have hlength : (mem.listing start 1).length = 1 := by
    rw [length_listing]
    omega
  obtain ⟨item, hitem⟩ := List.length_eq_one_iff.mp hlength
  have hfirst : (mem.listing start 1)[0]? = some (_, _) :=
    getElem?_listing_eq_some_iff.mpr ⟨Nat.one_pos, h, rfl, rfl⟩
  rw [hitem, List.getElem?_cons_zero] at hfirst
  rw [hitem, Option.some.inj hfirst]
  rfl

theorem listing_of_last (mem : Memory) (h : memorySize ≤ start + 1) (length : ℕ) :
    mem.listing start length = [] := by
  rw [← List.length_eq_zero_iff, length_listing]
  omega

theorem dump_eq_block (mem : Memory) (h : start ≤ memorySize) (length : ℕ) :
    mem.dump start length = mem.block start (min (start + length) memorySize - start) := by
  rw [← take_drop_toList mem (by omega), dump, List.take_eq_take_iff, List.length_drop,
    Vector.length_toList]
  omega

end Memory

namespace Machine

variable {m : Machine} {i : Instruction}

/-- The next cycle executes an instruction: it ends as the instruction does, and if that succeeds,
it counts the timers down. -/
def Executes (m : Machine) (i : Instruction) : Prop :=
  m.step = match (Procedure.execute i).run m with
    | .ok outcome after => .ok outcome after.tickTimers
    | .error fault after => .error fault after

theorem StandsAt.executes (h : m.StandsAt i) : m.Executes i := by
  obtain ⟨word, hfetch, rfl⟩ := standsAt_iff.mp h
  have hstep := step_of_fetch_ok hfetch
  rw [← Procedure.run_execute] at hstep
  exact hstep

/-- There is an instruction at the program counter exactly where a word can be fetched. -/
theorem exists_current_iff : (∃ i, m.current? = some i) ↔ ∃ word, m.fetch = .ok word := by
  simp only [current?_eq_some_iff, standsAt_iff]
  constructor
  · rintro ⟨-, word, hfetch, -⟩
    exact ⟨word, hfetch⟩
  · rintro ⟨word, hfetch⟩
    exact ⟨_, word, hfetch, rfl⟩

theorem current?_eq_none_iff : m.current? = none ↔ 0xFFF ≤ m.pc.toNat := by
  rw [current?, ite_eq_right_iff, memorySize]
  simp only [reduceCtorEq, imp_false]
  omega

/-- Where there is no instruction, the next cycle fails for want of memory. -/
theorem step_of_no_current (h : m.current? = none) :
    m.step = .error (.outsideMemory (max m.pc.toNat memorySize)) m := by
  have hpc : 0xFFF ≤ m.pc.toNat := current?_eq_none_iff.mp h
  exact step_of_fetch_error
    (fetch_eq_outsideMemory_iff.mpr ⟨Nat.add_lt_add_right (Nat.lt_of_succ_le hpc) 2, rfl⟩)

end Machine

namespace Debugger

variable {σ : Type} [MonadFiles (StateM σ)] {d : Debugger} {files : σ} {start length : UInt16}
  {a : ℕ} {b : UInt8}

/-! ## Answers -/

/-- What a debugger answers to a command that changes neither itself nor the files. -/
def Answers (d : Debugger) (files : σ) (c : Command) (answer : Except CommandFault Report) : Prop :=
  (d.execute (m := StateM σ) c).run files = ((d, answer), files)

/-- A byte at an address is among those that the debugger shows on demand. -/
def Shows (d : Debugger) (files : σ) (a : ℕ) (b : UInt8) : Prop :=
  ∃ (start length : UInt16) (bytes : List UInt8) (k : ℕ),
    d.Answers files (.memory start length) (.ok (.memory start bytes)) ∧
      start.toNat + k = a ∧ bytes[k]? = some b

theorem answers_memory (d : Debugger) (files : σ) (start length : UInt16) :
    d.Answers files (.memory start length)
      (inMemory start (.memory start (d.machine.memory.dump start.toNat length.toNat))) :=
  rfl

theorem answers_disassemble (d : Debugger) (files : σ) (start length : UInt16) :
    d.Answers files (.disassemble start length)
      (inMemory start (.disassembly start (d.machine.memory.listing start.toNat length.toNat))) :=
  rfl

theorem Answers.unique {c : Command} {answer other : Except CommandFault Report}
    (h : d.Answers files c answer) (h' : d.Answers files c other) : answer = other :=
  (Prod.mk.inj (Prod.mk.inj (h.symm.trans h')).1).2

theorem inMemory_of_lt {report : Report} (h : start.toNat < memorySize) :
    inMemory start report = .ok report :=
  if_pos h

theorem inMemory_of_le {report : Report} (h : memorySize ≤ start.toNat) :
    inMemory start report = .error .outOfRange :=
  if_neg (Nat.not_lt.mpr h)

theorem answers_block (d : Debugger) (files : σ) (h : start.toNat < memorySize)
    (length : UInt16) :
    d.Answers files (.memory start length)
      (.ok (.memory start (d.machine.memory.block start.toNat
        (min (start.toNat + length.toNat) memorySize - start.toNat)))) := by
  have hanswer := d.answers_memory files start length
  rwa [inMemory_of_lt h, Memory.dump_eq_block _ (Nat.le_of_lt h)] at hanswer

theorem answers_listing (d : Debugger) (files : σ) (h : start.toNat < memorySize)
    (length : UInt16) :
    d.Answers files (.disassemble start length)
      (.ok (.disassembly start (d.machine.memory.listing start.toNat length.toNat))) := by
  have hanswer := d.answers_disassemble files start length
  rwa [inMemory_of_lt h] at hanswer

theorem shows_iff : d.Shows files a b ↔ a < memorySize ∧ d.machine.memory.byte a = b := by
  constructor
  · rintro ⟨start, length, bytes, k, hanswer, rfl, hk⟩
    by_cases h : start.toNat < memorySize
    · obtain ⟨-, rfl⟩ := Report.memory.inj
        (Except.ok.inj (hanswer.unique (d.answers_block files h length)))
      obtain ⟨hk, rfl⟩ := Memory.getElem?_block_eq_some_iff.mp hk
      exact ⟨by omega, rfl⟩
    · have hrefused := d.answers_memory files start length
      rw [inMemory_of_le (Nat.le_of_not_lt h)] at hrefused
      cases hanswer.unique hrefused
  · rintro ⟨ha, rfl⟩
    have hstart : (UInt16.ofNat a).toNat = a := by
      rw [memorySize] at ha
      exact UInt16.toNat_ofNat_of_lt' (Nat.lt_trans ha (by decide))
    refine ⟨.ofNat a, 1, _, 0, d.answers_block files (by rwa [hstart]) 1, hstart, ?_⟩
    rw [hstart, Memory.getElem?_block_eq_some_iff]
    have hone : (1 : UInt16).toNat = 1 := rfl
    exact ⟨by omega, rfl⟩

theorem shows_of_listing {k : ℕ} {w : UInt16} {i : Instruction}
    (h : (d.machine.memory.listing start.toNat length.toNat)[k]? = some (w, i)) :
    i = Instruction.decode w ∧ ∃ high low, d.Shows files (start.toNat + 2 * k) high ∧
      d.Shows files (start.toNat + 2 * k + 1) low ∧
      w.toNat = 0x100 * high.toNat + low.toNat := by
  obtain ⟨-, hlow, rfl, rfl⟩ := Memory.getElem?_listing_eq_some_iff.mp h
  exact ⟨rfl, _, _, shows_iff.mpr ⟨Nat.lt_of_succ_lt hlow, rfl⟩, shows_iff.mpr ⟨hlow, rfl⟩,
    Memory.toNat_word _ _⟩

/-! ## At the program counter -/

/-- The instruction at the program counter is the first one that is listed there. -/
theorem answers_of_current {i : Instruction} (h : d.machine.current? = some i) (files : σ) :
    ∃ w, d.machine.fetch = .ok w ∧ Instruction.decode w = i ∧
      d.Answers files (.disassemble d.machine.pc 1) (.ok (.disassembly d.machine.pc [(w, i)])) := by
  obtain ⟨w, hfetch, rfl⟩ := Machine.standsAt_iff.mp (Machine.current?_eq_some_iff.mp h)
  obtain ⟨hpc, rfl⟩ := Machine.fetch_eq_ok_iff.mp hfetch
  have hone : (1 : UInt16).toNat = 1 := rfl
  have hlisted := d.answers_listing files (Nat.lt_of_succ_lt hpc) 1
  rw [hone, Memory.listing_one hpc] at hlisted
  exact ⟨_, hfetch, rfl, hlisted⟩

/-- Where there is none, nothing is listed or the address is rejected. -/
theorem answers_of_no_current (h : d.machine.current? = none) (files : σ) :
    (d.machine.pc.toNat = 0xFFF ∧ ∀ length, d.Answers files (.disassemble d.machine.pc length)
        (.ok (.disassembly d.machine.pc []))) ∨
      (memorySize ≤ d.machine.pc.toNat ∧ ∀ length,
        d.Answers files (.disassemble d.machine.pc length) (.error .outOfRange)) := by
  rcases Nat.eq_or_lt_of_le (Machine.current?_eq_none_iff.mp h) with hlast | hbehind
  · have hin : d.machine.pc.toNat < memorySize := by rw [← hlast, memorySize]; decide
    have hend : memorySize ≤ d.machine.pc.toNat + 1 := by rw [← hlast, memorySize]
    refine .inl ⟨hlast.symm, fun length ↦ ?_⟩
    have hlisted := d.answers_listing files hin length
    rwa [Memory.listing_of_last _ hend] at hlisted
  · refine .inr ⟨hbehind, fun length ↦ ?_⟩
    have hanswer := d.answers_disassemble files d.machine.pc length
    rwa [inMemory_of_le hbehind] at hanswer

/-- **The debugger shows what the machine executes.** On demand a debugger shows bytes of memory
from any address in it on, as many as it is asked for or as there are left. It lists words as well,
as many as it is asked for or as there are whole ones left, and each of them is made of two of the
bytes it would show, the high one first, and stands with its instruction.

A word can be fetched exactly if there is an instruction at the program counter; then this is the
instruction that the next cycle executes and the one that is listed there. Otherwise the cycle fails
for want of memory. There is nothing listed at the last byte of memory then, and addresses behind it
are rejected. -/
theorem shows_what_is_executed (d : Debugger) (files : σ) :
    (∀ start length : UInt16, start.toNat < memorySize →
      d.Answers files (.memory start length)
        (.ok (.memory start (d.machine.memory.block start.toNat
          (min (start.toNat + length.toNat) memorySize - start.toNat)))) ∧
      ∃ items, d.Answers files (.disassemble start length) (.ok (.disassembly start items)) ∧
        items.length = min length.toNat ((memorySize - start.toNat) / 2) ∧
        ∀ k w i, items[k]? = some (w, i) → i = Instruction.decode w ∧
          ∃ high low, d.Shows files (start.toNat + 2 * k) high ∧
            d.Shows files (start.toNat + 2 * k + 1) low ∧
            w.toNat = 0x100 * high.toNat + low.toNat) ∧
    ((∃ i, d.machine.current? = some i) ↔ ∃ w, d.machine.fetch = .ok w) ∧
    (∀ i, d.machine.current? = some i → d.machine.Executes i ∧
      ∃ w, d.machine.fetch = .ok w ∧ Instruction.decode w = i ∧
        d.Answers files (.disassemble d.machine.pc 1)
          (.ok (.disassembly d.machine.pc [(w, i)]))) ∧
    (d.machine.current? = none →
      d.machine.step = .error (.outsideMemory (max d.machine.pc.toNat memorySize)) d.machine ∧
      ((d.machine.pc.toNat = 0xFFF ∧ ∀ length, d.Answers files (.disassemble d.machine.pc length)
          (.ok (.disassembly d.machine.pc []))) ∨
        (memorySize ≤ d.machine.pc.toNat ∧ ∀ length,
          d.Answers files (.disassemble d.machine.pc length) (.error .outOfRange)))) := by
  refine ⟨fun start length h ↦ ?_, Machine.exists_current_iff, fun i hi ↦ ?_, fun hnone ↦ ?_⟩
  · exact ⟨d.answers_block files h length, _, d.answers_listing files h length,
      Memory.length_listing _ _ _, fun k w i hk ↦ shows_of_listing hk⟩
  · exact ⟨(Machine.current?_eq_some_iff.mp hi).executes, answers_of_current hi files⟩
  · exact ⟨Machine.step_of_no_current hnone, answers_of_no_current hnone files⟩

/-- A debugger at an odd address with three bytes left, the first two of them an instruction. -/
def nearTheEnd : Debugger where
  machine :=
    { Machine.powerOn ⟨0, 0⟩ with
      memory := Memory.zero.write 0xFFD [0x6A, 0x05, 0x12]
      pc := 0xFFD }
  clock := Clock.ofRate Clock.defaultRate
  breakpoints := []
  running := false
  program := []

/-- The same debugger at the byte left over. -/
def atTheEnd : Debugger := { nearTheEnd with machine := nearTheEnd.machine.jump 0xFFF }

/-- The three bytes are shown and the one word is listed, however much is asked for; the word is
executed, and the byte left over is not. -/
theorem shows_what_is_executed_nearTheEnd :
    nearTheEnd.Answers FileTree.empty (.memory 0xFFD 0xFFFF)
      (.ok (.memory 0xFFD [0x6A, 0x05, 0x12])) ∧
    (∃ items, nearTheEnd.Answers FileTree.empty (.disassemble 0xFFD 0xFFFF)
      (.ok (.disassembly 0xFFD items)) ∧ items.length = 1) ∧
    nearTheEnd.machine.Executes (.setByte (.ofNat 0xA) 5) ∧
    atTheEnd.machine.step = .error (.outsideMemory 0x1000) atTheEnd.machine := by
  obtain ⟨hshown, -, hexecuted, -⟩ := shows_what_is_executed nearTheEnd FileTree.empty
  obtain ⟨hbytes, items, hitems, hlength, -⟩ := hshown 0xFFD 0xFFFF (by decide)
  have hblock : nearTheEnd.machine.memory.block 0xFFD 3 = [0x6A, 0x05, 0x12] := by decide +kernel
  refine ⟨?_, ⟨items, hitems, hlength⟩, (hexecuted _ (by decide +kernel)).1, ?_⟩
  · rw [← hblock]
    exact hbytes
  · exact ((shows_what_is_executed atTheEnd FileTree.empty).2.2.2 (by decide +kernel)).1

end Debugger

end ChipEight
