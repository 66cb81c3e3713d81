import ChipEight.Proofs.Instruction.Words
import ChipEight.Proofs.Machine.Operation

/-!
# The timers of a run

Both timers count the cycles that succeed. An instruction that loads a timer is followed by the tick
of its own cycle like any other, so a timer that was loaded with a value shows one less right after
it. No other instruction touches a timer, a cycle that fails does not tick, and one that waits for a
key does.

What a timer shows after a run therefore depends on a single operation of the run, the last one that
loaded it, and on a number, that of the successful cycles from there on. `Machine.loadedAt?` finds
the loads by the words that are fetched and not by the decoded instructions; the successful cycles
are counted on the transcript of the run.
-/

namespace ChipEight

/-- The timers of a machine. -/
inductive Timer where
  | delay
  | sound
  deriving DecidableEq, Repr

namespace Timer

/-- The low byte of the words that load the timer, which are `Fx15` and `Fx18`. -/
def code : Timer → UInt8
  | .delay => 0x15
  | .sound => 0x18

def load : Timer → Nibble → Instruction
  | .delay => .setDelay
  | .sound => .setSound

end Timer

/-! ## Words that load a timer -/

namespace Instruction

/-- The register in a word that loads a timer. -/
def loading? (t : Timer) (word : UInt16) : Option Nibble :=
  if word >>> 12 = 0xF ∧ word.toUInt8 = t.code then some (Nibble.low (word >>> 8)) else none

theorem decode_of_loading {t : Timer} {word : UInt16} {x : Nibble}
    (h : loading? t word = some x) : decode word = t.load x := by
  obtain ⟨⟨hfamily, hcode⟩, hx⟩ := Option.ite_none_right_eq_some.mp h
  obtain rfl := Option.some.inj hx
  have hword := (Word.shiftRight_eq_iff word).mp hfamily
  cases t <;> exact decode_of_fits ⟨hword, congrArg UInt8.toNat hcode, Word.low_x word⟩

theorem loading?_of_decode {t : Timer} {word : UInt16} {x : Nibble} (h : decode word = t.load x) :
    loading? t word = some x := by
  have hfits := decode_eq_iff.mp h
  cases t
  all_goals
    obtain ⟨hfamily, hcode, rfl⟩ := hfits
    rw [← Word.low_x]
    exact if_pos ⟨(Word.shiftRight_eq_iff word).mpr hfamily, UInt8.toNat_inj.mp hcode⟩

end Instruction

def Operation.isCycleOrKey : Operation → Bool
  | .step | .setKey .. => true
  | _ => false

/-- Whether an answer is that of a cycle that succeeded, whatever its outcome. -/
def Answer.isCycle : Answer → Bool
  | .ok (some _) => true
  | _ => false

namespace Machine

def timer (m : Machine) : Timer → UInt8
  | .delay => m.delay
  | .sound => m.sound

/-- The register from which an operation loads a timer, if it does. -/
def loading? (m : Machine) (t : Timer) : Operation → Option Nibble
  | .step =>
    match m.fetch with
    | .ok word => Instruction.loading? t word
    | .error _ => none
  | _ => none

/-- The register from which operation number `i` of a run loads a timer, if it does. -/
def loadedAt? (m : Machine) (t : Timer) (ops : List Operation) (i : ℕ) : Option Nibble :=
  ops[i]?.bind ((m.moment ops i).loading? t)

def cycles (m : Machine) (ops : List Operation) : ℕ :=
  (m.transcript ops).countP fun seen ↦ Answer.isCycle seen.1

/-- The machine shows `n` on a timer, and beeps accordingly. -/
def Shows (m : Machine) (t : Timer) (n : ℕ) : Prop :=
  (m.timer t).toNat = n ∧ (t = .sound → (m.beeps = true ↔ 0 < n))

variable {m : Machine} {t : Timer} {op : Operation} {ops : List Operation} {x : Nibble}

/-! ## One operation -/

theorem timer_commit_load (m : Machine) (t : Timer) (x : Nibble) :
    (m.commit (t.load x)).1.timer t = m.reg x := by
  cases t <;> rfl

theorem timer_commit (m : Machine) {i : Instruction} (h : ∀ x, i ≠ t.load x) :
    (m.commit i).1.timer t = m.timer t := by
  cases i with
  | setDelay x =>
    cases t with
    | delay => exact absurd rfl (h x)
    | sound => rfl
  | setSound x =>
    cases t with
    | delay => rfl
    | sound => exact absurd rfl (h x)
  | arith op x y => cases op <;> cases t <;> rfl
  | awaitKey x =>
    rw [commit]
    split <;> cases t <;> rfl
  | _ => cases t <;> rfl

theorem toNat_timer_tickTimers (m : Machine) (t : Timer) :
    (m.tickTimers.timer t).toNat = (m.timer t).toNat - 1 := by
  have htick (b : UInt8) : (if b = 0 then 0 else b - 1).toNat = b.toNat - 1 := by
    split
    · next h => rw [h]; rfl
    · next h =>
      have hone : 1 ≤ b := by
        rw [UInt8.le_iff_toNat_le]
        exact Nat.one_le_iff_ne_zero.mpr fun hzero ↦ h (UInt8.toNat_inj.mp hzero)
      exact UInt8.toNat_sub_of_le _ _ hone
  cases t
  · exact htick m.delay
  · exact htick m.sound

/-- A load succeeds, and the tick of its cycle follows it. -/
theorem apply_of_loading (h : m.loading? t op = some x) :
    ((m.apply op).2.timer t).toNat = (m.reg x).toNat - 1 ∧
      Answer.isCycle (m.apply op).1 = true := by
  cases op with
  | step =>
    cases hf : m.fetch with
    | error fault => simp [loading?, hf] at h
    | ok word =>
      have hdecode : Instruction.decode word = t.load x :=
        Instruction.decode_of_loading (by simpa [loading?, hf] using h)
      have hrefusal : m.refusal? (t.load x) = none := by cases t <;> rfl
      rw [apply_step_of_commit hf (hdecode ▸ hrefusal), hdecode]
      exact ⟨by rw [toNat_timer_tickTimers, timer_commit_load], rfl⟩
  | _ => cases h

/-- Any other operation leaves a timer alone but for the tick of a cycle that succeeds. -/
theorem timer_apply (hop : op.isCycleOrKey = true) (h : m.loading? t op = none) :
    ((m.apply op).2.timer t).toNat
      = (m.timer t).toNat - if Answer.isCycle (m.apply op).1 then 1 else 0 := by
  cases op with
  | step =>
    cases hf : m.fetch with
    | error fault =>
      rw [apply_step_of_fetch_error hf]
      rfl
    | ok word =>
      cases hr : m.refusal? (Instruction.decode word) with
      | some fault =>
        rw [apply_step_of_refusal hf hr]
        rfl
      | none =>
        have hother (y : Nibble) : Instruction.decode word ≠ t.load y := by
          intro hload
          have hloading := Instruction.loading?_of_decode hload
          simp [loading?, hf, hloading] at h
        rw [apply_step_of_commit hf hr, toNat_timer_tickTimers, timer_commit m hother]
        rfl
  | setKey key down => cases t <;> rfl
  | _ => cases hop

/-! ## Many operations -/

theorem cycles_cons (m : Machine) (op : Operation) (ops : List Operation) :
    m.cycles (op :: ops)
      = (m.apply op).2.cycles ops + if Answer.isCycle (m.apply op).1 then 1 else 0 :=
  List.countP_cons

theorem loadedAt?_moment (m : Machine) (t : Timer) (ops : List Operation) (j i : ℕ) :
    (m.moment ops j).loadedAt? t (ops.drop j) i = m.loadedAt? t ops (j + i) := by
  rw [loadedAt?, loadedAt?, moment_moment, List.getElem?_drop]

theorem timer_applyAll (hops : ∀ op ∈ ops, op.isCycleOrKey = true)
    (h : ∀ i < ops.length, m.loadedAt? t ops i = none) :
    ((m.applyAll ops).timer t).toNat = (m.timer t).toNat - m.cycles ops := by
  induction ops generalizing m with
  | nil => rfl
  | cons op ops ih =>
    have hfirst : m.loading? t op = none := h 0 (Nat.succ_pos _)
    have hrest : ∀ i < ops.length, (m.apply op).2.loadedAt? t ops i = none :=
      fun i hi ↦ h (i + 1) (Nat.succ_lt_succ hi)
    rw [applyAll, ih (fun other hother ↦ hops other (List.mem_cons_of_mem op hother)) hrest,
      timer_apply (hops op List.mem_cons_self) hfirst, cycles_cons, Nat.sub_sub, Nat.add_comm]

theorem timer_applyAll_of_loading (hops : ∀ other ∈ op :: ops, other.isCycleOrKey = true)
    (hload : m.loading? t op = some x)
    (h : ∀ i < ops.length, (m.apply op).2.loadedAt? t ops i = none) :
    ((m.applyAll (op :: ops)).timer t).toNat = (m.reg x).toNat - m.cycles (op :: ops) := by
  obtain ⟨htimer, hcycle⟩ := apply_of_loading hload
  have hrest : ∀ other ∈ ops, other.isCycleOrKey = true :=
    fun other hother ↦ hops other (List.mem_cons_of_mem op hother)
  rw [applyAll, timer_applyAll hrest h, htimer, cycles_cons, hcycle, if_pos rfl, Nat.sub_sub,
    Nat.add_comm]

theorem shows_of_timer {n : ℕ} (h : (m.timer t).toNat = n) : m.Shows t n := by
  refine ⟨h, ?_⟩
  rintro rfl
  rw [beeps, decide_eq_true_iff, ← h]
  exact UInt8.lt_iff_toNat_lt

/-- **Timers count successful cycles.** Consider a run of cycles, successful or failing, and changes
of keys. If a timer was loaded in it, for the last time by operation number `j`, it shows the value
it was loaded with less the number of successful cycles from that one on, or zero if there were
more. If it was not loaded, the same holds of the value it showed before the run and all successful
cycles. The machine beeps exactly if this number is positive for the sound timer. A cycle that loads
a timer never fails. -/
theorem timers_count_cycles (m : Machine) (t : Timer) (ops : List Operation)
    (hops : ∀ op ∈ ops, op.isCycleOrKey = true) :
    (∀ j x, m.loadedAt? t ops j = some x →
      (∀ i < ops.length, j < i → m.loadedAt? t ops i = none) →
      (m.applyAll ops).Shows t
        (((m.moment ops j).reg x).toNat - (m.moment ops j).cycles (ops.drop j))) ∧
    ((∀ i < ops.length, m.loadedAt? t ops i = none) →
      (m.applyAll ops).Shows t ((m.timer t).toNat - m.cycles ops)) ∧
    ∀ j x, m.loadedAt? t ops j = some x →
      Answer.isCycle ((m.moment ops j).apply .step).1 = true := by
  refine ⟨?_, fun h ↦ shows_of_timer (timer_applyAll hops h), ?_⟩
  · intro j x hload hlast
    obtain ⟨op, hop, hloading⟩ := Option.bind_eq_some_iff.mp hload
    have hj : j < ops.length := (List.getElem?_eq_some_iff.mp hop).1
    have hrest : ops.drop j = op :: ops.drop (j + 1) := by
      rw [List.drop_eq_getElem_cons hj, (List.getElem?_eq_some_iff.mp hop).2]
    refine shows_of_timer ?_
    rw [← applyAll_moment m ops j, hrest]
    refine timer_applyAll_of_loading ?_ hloading fun i hi ↦ ?_
    · rw [← hrest]
      exact fun other hother ↦ hops other (List.mem_of_mem_drop hother)
    · -- what follows the load is the run from the moment after it
      rw [List.length_drop] at hi
      rw [← moment_succ m hop, loadedAt?_moment]
      exact hlast (j + 1 + i) (by omega) (by omega)
  · intro j x hload
    obtain ⟨op, hop, hloading⟩ := Option.bind_eq_some_iff.mp hload
    cases op with
    | step => exact (apply_of_loading hloading).2
    | _ => cases hloading

/-- A machine about to load both timers, the sound timer with a key that it waits for, and to fail
after that. -/
def loadingTimers : Machine :=
  { powerOn ⟨0, 0⟩ with
    memory := Memory.zero.write 0 [0xF0, 0x15, 0xF1, 0x0A, 0xF1, 0x18, 0xFF, 0xFF]
    v := Vector.replicate 16 9
    sound := 7
    pc := 0 }

/-- The delay timer is loaded, a key is awaited twice and pressed, the sound timer is loaded, and a
cycle fails. -/
def timedRun : List Operation := [.step, .step, .setKey (.ofNat 3) true, .step, .step, .step]

/-- Four of the five cycles succeed, one of them without a key. The last of the four loads the sound
timer, which has counted the three before it. -/
theorem timers_count_cycles_loadingTimers :
    (loadingTimers.applyAll timedRun).Shows .delay (9 - 4) ∧
      (loadingTimers.applyAll timedRun).Shows .sound (3 - 1) ∧
      (loadingTimers.applyAll (timedRun.take 4)).Shows .sound (7 - 3) := by
  have hops : ∀ op ∈ timedRun, op.isCycleOrKey = true := by decide
  have hdelay : ((loadingTimers.moment timedRun 0).reg (.ofNat 0)).toNat
      - (loadingTimers.moment timedRun 0).cycles (timedRun.drop 0) = 9 - 4 := by
    decide +kernel
  have hsound : ((loadingTimers.moment timedRun 4).reg (.ofNat 1)).toNat
      - (loadingTimers.moment timedRun 4).cycles (timedRun.drop 4) = 3 - 1 := by
    decide +kernel
  have hbefore : (loadingTimers.timer .sound).toNat - loadingTimers.cycles (timedRun.take 4)
      = 7 - 3 := by
    decide +kernel
  rw [← hdelay, ← hsound, ← hbefore]
  refine ⟨?_, ?_, ?_⟩
  · exact (timers_count_cycles loadingTimers .delay timedRun hops).1 0 (.ofNat 0)
      (by decide +kernel) (by decide +kernel)
  · exact (timers_count_cycles loadingTimers .sound timedRun hops).1 4 (.ofNat 1)
      (by decide +kernel) (by decide +kernel)
  · exact (timers_count_cycles loadingTimers .sound (timedRun.take 4) (by decide)).2.1
      (by decide +kernel)

end Machine

end ChipEight
