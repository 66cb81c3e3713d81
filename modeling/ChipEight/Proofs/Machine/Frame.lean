import ChipEight.Proofs.Machine.Arithmetic
import ChipEight.Proofs.Machine.Refusals
import Mathlib.Tactic.ByContra

/-!
# What a cycle leaves alone

An instruction changes a few components of the machine and leaves all others as they were. For each
component, `Machine.CycleFrame` says which words can change it at all, and for the program counter
where it goes. The words are told by their patterns; the decoder is no part of it.

Which components an instruction leaves alone is settled in one case analysis, `Machine.untouched`,
which says of each component by which instructions it is written. What these instructions have for
words is then a matter of their patterns. The timers are left out, since every cycle that succeeds
counts them down.
-/

namespace ChipEight

open Word

namespace Word

/-- The words `0?E0` and `Dxyn`. -/
def ChangesDisplay (w : UInt16) : Prop := (family w = 0x0 ∧ code w = 0xE0) ∨ family w = 0xD

/-- The words with a result in `Vx`: `6xnn`, `7xnn`, `8xy?`, `Cxnn`, `Fx07` and `Fx0A`. -/
def WritesX (w : UInt16) : Prop :=
  family w ∈ [0x6, 0x7, 0x8, 0xC] ∨ (family w = 0xF ∧ code w ∈ [0x07, 0x0A])

/-- The words with a bit in the flag: `8xy4` to `8xy7`, `8xyE` and `Dxyn`. -/
def WritesFlag (w : UInt16) : Prop :=
  (family w = 0x8 ∧ (n w).val ∈ [0x4, 0x5, 0x6, 0x7, 0xE]) ∨ family w = 0xD

end Word

/-- Whether an instruction can write a register. -/
def Instruction.Writes (k : Nibble) : Instruction → Prop
  | .setByte r _ | .addByte r _ | .random r _ | .awaitKey r | .readDelay r => k = r
  | .arith op r _ => k = r ∨ (op.setsFlag = true ∧ k = Machine.flag)
  | .draw .. => k = Machine.flag
  | .loadRegisters r => k ≤ r
  | _ => False

namespace Machine

/-- A register names a key, and the key is pressed. -/
def NamesPressed (m : Machine) (r : Nibble) : Prop :=
  ∃ key : Nibble, (m.reg r).toNat = key.val ∧ m.isPressed key = true

/-- The word is a skip, and its condition holds. -/
def Skips (m : Machine) (w : UInt16) : Prop :=
  (family w = 0x3 ∧ m.reg (x w) = nn w) ∨ (family w = 0x4 ∧ m.reg (x w) ≠ nn w) ∨
    (family w = 0x5 ∧ m.reg (x w) = m.reg (y w)) ∨ (family w = 0x9 ∧ m.reg (x w) ≠ m.reg (y w)) ∨
    (family w = 0xE ∧ code w = 0x9E ∧ m.NamesPressed (x w)) ∨
    (family w = 0xE ∧ code w = 0xA1 ∧ ¬m.NamesPressed (x w))

/-- The word is `Fx0A`, and no key is pressed. -/
def AwaitsInVain (m : Machine) (w : UInt16) : Prop :=
  family w = 0xF ∧ code w = 0x0A ∧ ∀ key, m.isPressed key = false

/-- What a cycle that succeeds may do when it executes a word. -/
structure CycleFrame (m : Machine) (w : UInt16) (outcome : Outcome) (after : Machine) : Prop where
  keypad : after.keypad = m.keypad
  display : after.display ≠ m.display → ChangesDisplay w
  displayChanged : outcome = .displayChanged ↔ ChangesDisplay w
  /-- `Fx33` writes three bytes at `I`, and `Fx55` as many as there are registers up to `Vx`. -/
  memory : ∀ a, after.memory.byte a ≠ m.memory.byte a → family w = 0xF ∧ m.index.toNat ≤ a ∧
    ((code w = 0x33 ∧ a ≤ m.index.toNat + 2) ∨ (code w = 0x55 ∧ a ≤ m.index.toNat + (x w).val))
  /-- The words `Annn`, `Fx1E` and `Fx29`. -/
  index : after.index ≠ m.index → family w = 0xA ∨ (family w = 0xF ∧ code w ∈ [0x1E, 0x29])
  /-- The words `2nnn` and `0?EE`. -/
  calls : after.calls ≠ m.calls → family w = 0x2 ∨ (family w = 0x0 ∧ code w = 0xEE)
  /-- Only `Cxnn` draws from the random source, and it draws once. -/
  random : after.random = if family w = 0xC then m.random.next.2 else m.random
  /-- The last alternative is `Fx65`. -/
  registers : ∀ k, after.reg k ≠ m.reg k → (k = x w ∧ WritesX w) ∨ (k = flag ∧ WritesFlag w) ∨
    (k ≤ x w ∧ family w = 0xF ∧ code w = 0x65)
  jump : family w = 0x1 → after.pc = nnn w
  jumpOffset : family w = 0xB → after.pc.toNat = (nnn w).toNat + (m.reg (.ofNat 0)).toNat
  /-- A call pushes its own address. -/
  call : family w = 0x2 → after.calls = m.pc :: m.calls ∧ after.pc = nnn w
  /-- A return pops an address and goes on behind it. -/
  ret : family w = 0x0 → code w = 0xEE →
    ∃ caller, m.calls = caller :: after.calls ∧ after.pc = caller + 2
  skip : m.Skips w → after.pc.toNat = m.pc.toNat + 4
  awaitingKey : outcome = .awaitingKey ↔ m.AwaitsInVain w
  /-- A key that is awaited in vain leaves everything but the timers. -/
  await : m.AwaitsInVain w → after = m.tickTimers
  next : family w ∉ [0x1, 0x2, 0xB] → ¬(family w = 0x0 ∧ code w = 0xEE) → ¬m.Skips w →
    ¬m.AwaitsInVain w → after.pc.toNat = m.pc.toNat + 2

variable {m after : Machine} {w : UInt16} {i : Instruction} {outcome : Outcome}

/-! ## Keys that are awaited -/

theorem getLast?_pressed_eq_none_iff :
    m.pressed.getLast? = none ↔ ∀ key, m.isPressed key = false := by
  simp [pressed]

theorem commit_awaitKey (m : Machine) (r : Nibble) :
    (∃ b, m.commit (.awaitKey r) = (m.advance.setReg r b, .proceed) ∧
        ¬∀ key, m.isPressed key = false) ∨
      (m.commit (.awaitKey r) = (m, .awaitingKey) ∧ ∀ key, m.isPressed key = false) := by
  rw [← getLast?_pressed_eq_none_iff, commit]
  cases m.pressed.getLast? with
  | none => exact .inr ⟨rfl, rfl⟩
  | some key => exact .inl ⟨key.toByte, rfl, Option.some_ne_none key⟩

/-! ## Registers that are loaded -/

theorem get_fillRegisters_of_not_le {r k : Nibble} (h : ¬k ≤ r) :
    (m.fillRegisters r).get k = m.reg k := by
  have hval : ¬k.val ≤ r.val := h
  exact (Vector.getElem_ofFn k.lt).trans (if_neg hval)

theorem length_firstRegisters (m : Machine) (r : Nibble) :
    (m.firstRegisters r).length = r.val + 1 := by
  rw [firstRegisters, List.length_take, Vector.length_toList]
  exact Nat.min_eq_left r.lt

/-! ## What an instruction leaves alone -/

/-- The components that an instruction leaves alone if it is none of those that write them. -/
structure Untouched (m : Machine) (i : Instruction) : Prop where
  display : i ≠ .clear → (∀ r s k, i ≠ .draw r s k) → (m.commit i).1.display = m.display
  memory : (∀ r, i ≠ .storeDecimal r) → (∀ r, i ≠ .storeRegisters r) →
    (m.commit i).1.memory = m.memory
  index : (∀ a, i ≠ .setIndex a) → (∀ r, i ≠ .addIndex r) → (∀ r, i ≠ .pointGlyph r) →
    (m.commit i).1.index = m.index
  registers : ∀ k, ¬i.Writes k → (m.commit i).1.reg k = m.reg k

theorem untouched (m : Machine) (i : Instruction) : m.Untouched i := by
  cases i with
  | clear => exact ⟨fun h ↦ absurd rfl h, fun _ _ ↦ rfl, fun _ _ _ ↦ rfl, fun _ _ ↦ rfl⟩
  | draw r s k =>
    exact ⟨fun _ h ↦ absurd rfl (h r s k), fun _ _ ↦ rfl, fun _ _ _ ↦ rfl,
      fun _ hk ↦ m.advance.reg_setReg_of_ne _ hk⟩
  | storeDecimal r =>
    exact ⟨fun _ _ ↦ rfl, fun h _ ↦ absurd rfl (h r), fun _ _ _ ↦ rfl, fun _ _ ↦ rfl⟩
  | storeRegisters r =>
    exact ⟨fun _ _ ↦ rfl, fun _ h ↦ absurd rfl (h r), fun _ _ _ ↦ rfl, fun _ _ ↦ rfl⟩
  | setIndex a =>
    exact ⟨fun _ _ ↦ rfl, fun _ _ ↦ rfl, fun h _ _ ↦ absurd rfl (h a), fun _ _ ↦ rfl⟩
  | addIndex r =>
    exact ⟨fun _ _ ↦ rfl, fun _ _ ↦ rfl, fun _ h _ ↦ absurd rfl (h r), fun _ _ ↦ rfl⟩
  | pointGlyph r =>
    exact ⟨fun _ _ ↦ rfl, fun _ _ ↦ rfl, fun _ _ h ↦ absurd rfl (h r), fun _ _ ↦ rfl⟩
  | setByte | addByte | random | readDelay =>
    exact ⟨fun _ _ ↦ rfl, fun _ _ ↦ rfl, fun _ _ _ ↦ rfl,
      fun _ hk ↦ m.advance.reg_setReg_of_ne _ hk⟩
  | arith op r s =>
    have hframe := m.commit_arith_frame op r s
    exact ⟨fun _ _ ↦ by rw [hframe], fun _ _ ↦ by rw [hframe], fun _ _ _ ↦ by rw [hframe],
      fun _ hk ↦ m.reg_commit_arith_of_ne s (fun hr ↦ hk (.inl hr))
        fun hset hflag ↦ hk (.inr ⟨hset, hflag⟩)⟩
  | loadRegisters r =>
    exact ⟨fun _ _ ↦ rfl, fun _ _ ↦ rfl, fun _ _ _ ↦ rfl,
      fun _ hk ↦ get_fillRegisters_of_not_le hk⟩
  | awaitKey r =>
    rcases m.commit_awaitKey r with ⟨b, hcommit, -⟩ | ⟨hcommit, -⟩
    · exact ⟨fun _ _ ↦ congrArg (·.1.display) hcommit, fun _ _ ↦ congrArg (·.1.memory) hcommit,
        fun _ _ _ ↦ congrArg (·.1.index) hcommit, fun k hk ↦ (congrArg (·.1.reg k) hcommit).trans
          (m.advance.reg_setReg_of_ne b hk)⟩
    · exact ⟨fun _ _ ↦ congrArg (·.1.display) hcommit, fun _ _ ↦ congrArg (·.1.memory) hcommit,
        fun _ _ _ ↦ congrArg (·.1.index) hcommit, fun k _ ↦ congrArg (·.1.reg k) hcommit⟩
  | _ => exact ⟨fun _ _ ↦ rfl, fun _ _ ↦ rfl, fun _ _ _ ↦ rfl, fun _ _ ↦ rfl⟩

/-! ## Words that write a component -/

theorem display_commit (hi : i.Fits w) (h : (m.commit i).1.display ≠ m.display) :
    ChangesDisplay w := by
  by_contra hno
  refine h ((m.untouched i).display ?_ ?_)
  · rintro rfl
    exact hno (.inl hi)
  · rintro r s k rfl
    exact hno (.inr hi.1)

theorem index_commit (hi : i.Fits w) (h : (m.commit i).1.index ≠ m.index) :
    family w = 0xA ∨ (family w = 0xF ∧ code w ∈ [0x1E, 0x29]) := by
  by_contra hno
  refine h ((m.untouched i).index ?_ ?_ ?_)
  · rintro a rfl
    exact hno (.inl hi.1)
  all_goals
    rintro r rfl
    exact hno (.inr ⟨hi.1, by simp [hi.2.1]⟩)

theorem calls_commit_of_ne (hi : i.Fits w) (h : (m.commit i).1.calls ≠ m.calls) :
    family w = 0x2 ∨ (family w = 0x0 ∧ code w = 0xEE) := by
  by_contra hno
  refine h ((m.commit_frame i).calls ?_ ?_)
  · rintro rfl
    exact hno (.inr hi)
  · rintro a rfl
    exact hno (.inl hi.1)

theorem random_commit (m : Machine) (hi : i.Fits w) :
    (m.commit i).1.random = if family w = 0xC then m.random.next.2 else m.random := by
  split
  · next hC =>
    rw [hi.unique (j := .random _ _) ⟨hC, rfl, rfl⟩]
    rfl
  · next hC =>
    refine (m.commit_frame i).random ?_
    rintro r b rfl
    exact hC hi.1

theorem memory_commit (hi : i.Fits w) {a : ℕ}
    (h : (m.commit i).1.memory.byte a ≠ m.memory.byte a) :
    family w = 0xF ∧ m.index.toNat ≤ a ∧
      ((code w = 0x33 ∧ a ≤ m.index.toNat + 2) ∨
        (code w = 0x55 ∧ a ≤ m.index.toNat + (x w).val)) := by
  have hinside {bytes : List UInt8}
      (hwrite : (m.commit i).1.memory = m.memory.write m.index.toNat bytes) :
      m.index.toNat ≤ a ∧ a < m.index.toNat + bytes.length := by
    by_contra hno
    refine h ?_
    rw [hwrite, Memory.byte_write_of_outside (by omega)]
  by_cases hdecimal : ∃ r, i = .storeDecimal r
  · obtain ⟨r, rfl⟩ := hdecimal
    obtain ⟨hle, hlt⟩ := hinside rfl
    exact ⟨hi.1, hle, .inl ⟨hi.2.1, Nat.le_of_lt_succ hlt⟩⟩
  by_cases hregisters : ∃ r, i = .storeRegisters r
  · obtain ⟨r, rfl⟩ := hregisters
    obtain ⟨hle, hlt⟩ := hinside rfl
    obtain ⟨hfamily, hcode, rfl⟩ := hi
    rw [length_firstRegisters] at hlt
    exact ⟨hfamily, hle, .inr ⟨hcode, Nat.le_of_lt_succ hlt⟩⟩
  · refine absurd ?_ h
    rw [(m.untouched i).memory (not_exists.mp hdecimal) (not_exists.mp hregisters)]

theorem registers_commit (hi : i.Fits w) {k : Nibble} (h : (m.commit i).1.reg k ≠ m.reg k) :
    (k = x w ∧ WritesX w) ∨ (k = flag ∧ WritesFlag w) ∨
      (k ≤ x w ∧ family w = 0xF ∧ code w = 0x65) := by
  have hwrites : i.Writes k := by
    by_contra hno
    exact h ((m.untouched i).registers k hno)
  cases i with
  | setByte | addByte | random =>
    obtain ⟨hfamily, rfl, -⟩ := hi
    exact .inl ⟨hwrites, .inl (by simp [hfamily])⟩
  | awaitKey | readDelay =>
    obtain ⟨hfamily, hcode, rfl⟩ := hi
    exact .inl ⟨hwrites, .inr ⟨hfamily, by simp [hcode]⟩⟩
  | arith op =>
    obtain ⟨hfamily, hop, rfl, -⟩ := hi
    rcases hwrites with hx | ⟨hset, hflag⟩
    · exact .inl ⟨hx, .inl (by simp [hfamily])⟩
    · refine .inr (.inl ⟨hflag, .inl ⟨hfamily, ?_⟩⟩)
      rw [hop]
      cases op <;> first | decide | cases hset
  | draw => exact .inr (.inl ⟨hwrites, .inr hi.1⟩)
  | loadRegisters =>
    obtain ⟨hfamily, hcode, rfl⟩ := hi
    exact .inr (.inr ⟨hwrites, hfamily, hcode⟩)
  | _ => exact hwrites.elim

/-! ## What is told -/

theorem displayChanged_iff (hi : i.Fits w) :
    (m.commit i).2 = .displayChanged ↔ ChangesDisplay w := by
  constructor
  · intro h
    cases i with
    | clear => exact .inl hi
    | draw => exact .inr hi.1
    | awaitKey r =>
      rcases m.commit_awaitKey r with ⟨b, hcommit, -⟩ | ⟨hcommit, -⟩ <;> simp [hcommit] at h
    | _ => cases h
  · rintro (h | h)
    · rw [hi.unique (j := .clear) h, commit]
    · rw [hi.unique (j := .draw _ _ _) ⟨h, rfl, rfl, rfl⟩, commit]

theorem commit_of_awaitsInVain (hi : i.Fits w) (h : m.AwaitsInVain w) :
    m.commit i = (m, .awaitingKey) := by
  rw [hi.unique (j := .awaitKey _) ⟨h.1, h.2.1, rfl⟩]
  rcases m.commit_awaitKey (x w) with ⟨b, -, hsome⟩ | ⟨hcommit, -⟩
  · exact absurd h.2.2 hsome
  · exact hcommit

theorem awaitingKey_iff (hi : i.Fits w) :
    (m.commit i).2 = .awaitingKey ↔ m.AwaitsInVain w := by
  constructor
  · intro h
    cases i with
    | awaitKey r =>
      rcases m.commit_awaitKey r with ⟨b, hcommit, -⟩ | ⟨-, hnone⟩
      · simp [hcommit] at h
      · exact ⟨hi.1, hi.2.1, hnone⟩
    | _ => cases h
  · intro h
    rw [commit_of_awaitsInVain hi h]

/-! ## Where the program goes on -/

/-- The condition of a skip. -/
def condition? (m : Machine) : Instruction → Option Bool
  | .skipEqualByte r b => some (m.reg r == b)
  | .skipUnequalByte r b => some (m.reg r != b)
  | .skipEqual r s => some (m.reg r == m.reg s)
  | .skipUnequal r s => some (m.reg r != m.reg s)
  | .skipPressed r => some (m.pressedAt r)
  | .skipNotPressed r => some (!m.pressedAt r)
  | _ => none

theorem commit_of_condition? {c : Bool} (h : m.condition? i = some c) :
    m.commit i = (m.skip c, .proceed) := by
  cases i <;> cases h <;> rfl

theorem pressedAt_iff {r : Nibble} : m.pressedAt r = true ↔ m.NamesPressed r := by
  rw [pressedAt, Option.any_eq_true]
  refine exists_congr fun key ↦ and_congr_left fun _ ↦ ?_
  rw [Nibble.ofByte?, Option.dite_none_right_eq_some]
  constructor
  · rintro ⟨hlt, hkey⟩
    exact congrArg Fin.val (Option.some.inj hkey)
  · intro hval
    exact ⟨hval ▸ key.lt, congrArg some (Fin.ext hval)⟩

/-- A word skips exactly if its instruction has a condition and the condition holds. -/
theorem skips_iff (hi : i.Fits w) : m.Skips w ↔ m.condition? i = some true := by
  constructor
  · rintro (⟨h, hc⟩ | ⟨h, hc⟩ | ⟨h, hc⟩ | ⟨h, hc⟩ | ⟨h, hcode, hc⟩ | ⟨h, hcode, hc⟩)
    · rw [hi.unique (j := .skipEqualByte _ _) ⟨h, rfl, rfl⟩]
      simpa [condition?] using hc
    · rw [hi.unique (j := .skipUnequalByte _ _) ⟨h, rfl, rfl⟩]
      simpa [condition?] using hc
    · rw [hi.unique (j := .skipEqual _ _) ⟨h, rfl, rfl⟩]
      simpa [condition?] using hc
    · rw [hi.unique (j := .skipUnequal _ _) ⟨h, rfl, rfl⟩]
      simpa [condition?] using hc
    · rw [hi.unique (j := .skipPressed _) ⟨h, hcode, rfl⟩]
      exact congrArg some (pressedAt_iff.mpr hc)
    · rw [hi.unique (j := .skipNotPressed _) ⟨h, hcode, rfl⟩]
      simpa [condition?, ← pressedAt_iff] using hc
  · intro h
    cases i with
    | skipEqualByte =>
      obtain ⟨hfamily, rfl, rfl⟩ := hi
      exact .inl ⟨hfamily, by simpa [condition?] using h⟩
    | skipUnequalByte =>
      obtain ⟨hfamily, rfl, rfl⟩ := hi
      exact .inr (.inl ⟨hfamily, by simpa [condition?] using h⟩)
    | skipEqual =>
      obtain ⟨hfamily, rfl, rfl⟩ := hi
      exact .inr (.inr (.inl ⟨hfamily, by simpa [condition?] using h⟩))
    | skipUnequal =>
      obtain ⟨hfamily, rfl, rfl⟩ := hi
      exact .inr (.inr (.inr (.inl ⟨hfamily, by simpa [condition?] using h⟩)))
    | skipPressed =>
      obtain ⟨hfamily, hcode, rfl⟩ := hi
      exact .inr (.inr (.inr (.inr (.inl ⟨hfamily, hcode, pressedAt_iff.mp (Option.some.inj h)⟩))))
    | skipNotPressed =>
      obtain ⟨hfamily, hcode, rfl⟩ := hi
      refine .inr (.inr (.inr (.inr (.inr ⟨hfamily, hcode, ?_⟩))))
      simpa [condition?, ← pressedAt_iff] using h
    | _ => cases h

theorem pc_commit (hr : m.refusal? i = none) (hjump : ∀ a, i ≠ .jump a)
    (hoffset : ∀ a, i ≠ .jumpOffset a) (hcall : ∀ a, i ≠ .call a) (hret : i ≠ .ret)
    (hskip : m.condition? i ≠ some true) (hawait : (m.commit i).2 ≠ .awaitingKey) :
    (m.commit i).1.pc = m.pc + 2 := by
  cases hcondition : m.condition? i with
  | some c =>
    have hc : c = false := by
      rw [hcondition] at hskip
      simpa using hskip
    rw [commit_of_condition? hcondition, hc]
    rfl
  | none =>
    cases i with
    | jump a => exact absurd rfl (hjump a)
    | jumpOffset a => exact absurd rfl (hoffset a)
    | call a => exact absurd rfl (hcall a)
    | ret => exact absurd rfl hret
    | arith op r s => rw [commit_arith_frame]
    | awaitKey r =>
      rcases m.commit_awaitKey r with ⟨b, hcommit, -⟩ | ⟨hcommit, -⟩
      · rw [hcommit]
        rfl
      · simp [hcommit] at hawait
    | unknown => cases hr
    | skipEqualByte | skipUnequalByte | skipEqual | skipUnequal | skipPressed | skipNotPressed =>
      cases hcondition
    | _ => rfl

/-- **What a cycle leaves alone.** A cycle that succeeds changes what its word may change and
nothing else, and goes on at the next instruction unless its word leads elsewhere. -/
theorem cycle_frame (hw : m.AtWord w) (h : m.step = .ok outcome after) :
    m.CycleFrame w outcome after := by
  obtain ⟨hpc, hr, rfl, rfl⟩ := commit_of_step hw h
  have hi := Instruction.fits_decode w
  generalize Instruction.decode w = i at hi hr
  have htwo : (m.pc + 2).toNat = m.pc.toNat + 2 := toNat_next (by omega)
  refine
    { keypad := (m.commit_frame i).keypad
      display := display_commit hi
      displayChanged := displayChanged_iff hi
      memory := fun a ↦ memory_commit hi
      index := index_commit hi
      calls := calls_commit_of_ne hi
      random := random_commit m hi
      registers := fun k ↦ registers_commit hi
      awaitingKey := awaitingKey_iff hi
      await := fun hvain ↦ congrArg (·.1.tickTimers) (commit_of_awaitsInVain hi hvain)
      jump := ?_
      jumpOffset := ?_
      call := ?_
      ret := ?_
      skip := ?_
      next := ?_ }
  · intro hfamily
    obtain rfl := hi.unique (j := .jump _) ⟨hfamily, rfl⟩
    rfl
  · intro hfamily
    obtain rfl := hi.unique (j := .jumpOffset _) ⟨hfamily, rfl⟩
    refine offset_add ?_ _
    rw [toNat_nnn]
    omega
  · intro hfamily
    obtain rfl := hi.unique (j := .call _) ⟨hfamily, rfl⟩
    exact ⟨rfl, rfl⟩
  · intro hfamily hcode
    obtain rfl := hi.unique (j := .ret) ⟨hfamily, hcode⟩
    cases hcalls : m.calls with
    | nil => simp [refusal?, hcalls] at hr
    | cons caller outer => exact ⟨caller, by simp [commit, hcalls, tickTimers]⟩
  · intro hskips
    rw [commit_of_condition? ((skips_iff hi).mp hskips)]
    change (m.pc + 2 + 2).toNat = m.pc.toNat + 4
    rw [toNat_next (by omega), htwo]
  · intro hfamily hret hskips hvain
    have hnext : (m.commit i).1.pc = m.pc + 2 := by
      refine pc_commit hr ?_ ?_ ?_ ?_ (mt (skips_iff hi).mpr hskips)
        (mt (awaitingKey_iff hi).mp hvain)
      case refine_4 =>
        rintro rfl
        exact hret hi
      all_goals
        rintro a rfl
        exact hfamily (by simp [hi.1])
    exact (congrArg UInt16.toNat hnext).trans htwo

/-- A machine about to write its first two registers, which are alike, to memory. -/
def storingTwo : Machine :=
  { powerOn ⟨0, 0⟩ with
    memory := Memory.zero.write programStart [0xF1, 0x55]
    v := Vector.replicate 16 7
    index := 0x300 }

/-- The byte behind the two is kept, and so are the registers and the display. -/
theorem cycle_frame_storingTwo :
    storingTwo.AtWord 0xF155 ∧ ∃ outcome after, storingTwo.step = .ok outcome after ∧
      outcome ≠ .displayChanged ∧ after.display = storingTwo.display ∧
      after.memory.byte 0x302 = storingTwo.memory.byte 0x302 ∧
      (∀ k, after.reg k = storingTwo.reg k) ∧ after.pc.toNat = storingTwo.pc.toNat + 2 := by
  have hw : storingTwo.AtWord 0xF155 := by decide +kernel
  have hstep : storingTwo.step
      = .ok .proceed (storingTwo.commit (.storeRegisters 1)).1.tickTimers :=
    step_eq_ok_iff.mpr ⟨0xF155, fetch_of_atWord (by decide) hw, by decide, rfl, rfl⟩
  have hframe := cycle_frame hw hstep
  have hdisplay : ¬ChangesDisplay 0xF155 := by simp [ChangesDisplay, family, code]
  refine ⟨hw, _, _, hstep, mt hframe.displayChanged.mp hdisplay, ?_, ?_, fun k ↦ ?_, ?_⟩
  · exact not_imp_comm.mp hframe.display hdisplay
  · by_contra hne
    rcases (hframe.memory _ hne).2.2 with ⟨hcode, -⟩ | ⟨-, hle⟩
    · exact absurd hcode (by decide)
    · exact absurd hle (by decide)
  · by_contra hne
    rcases hframe.registers k hne with ⟨-, h⟩ | ⟨-, h⟩ | ⟨-, -, h⟩
    · exact absurd h (by simp [WritesX, family, code])
    · exact absurd h (by simp [WritesFlag, family])
    · exact absurd h (by decide)
  · exact hframe.next (by decide) (by decide) (by simp [Skips, family])
      (by simp [AwaitsInVain, code])

end Machine

end ChipEight
