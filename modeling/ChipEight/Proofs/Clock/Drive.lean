import ChipEight.Clock
import ChipEight.Proofs.Machine.Stops
import ChipEight.Proofs.Single.Units
import Mathlib.Data.Fintype.Pigeonhole

/-!
# Drives and counted runs

A drive counts time and a run counts cycles. Nevertheless a drive is a run: the collected time
leaves room for a number of cycles that depends on the clock alone, `Clock.owed`, and the drive is
the run of that many cycles, or does not come back if there is room for all cycles and nothing stops
the machine.

In single precision a clock that does not owe all cycles owes fewer of them than there are bit
patterns, since the collected time takes no value twice.
-/

namespace ChipEight

namespace Clock

/-! ## Owed cycles -/

section Owed

variable {α : Type} [Sub α] [LE α]

/-- The collected time after some cycles. -/
def restAfter (timeStep elapsed : α) (count : ℕ) : α := (· - timeStep)^[count] elapsed

/-- The number of cycles that the elapsed time leaves room for; `⊤` if there is always room for
another one. -/
noncomputable def owedFrom (timeStep elapsed : α) : ℕ∞ :=
  firstIndex fun j ↦ ¬timeStep ≤ restAfter timeStep elapsed j

theorem owedFrom_of_not_le {timeStep elapsed : α} (h : ¬timeStep ≤ elapsed) :
    owedFrom timeStep elapsed = 0 :=
  firstIndex_of_zero h

theorem owedFrom_of_le {timeStep elapsed : α} (h : timeStep ≤ elapsed) :
    owedFrom timeStep elapsed = owedFrom timeStep (elapsed - timeStep) + 1 :=
  firstIndex_succ (not_not_intro h)

theorem owedFrom_eq_top {timeStep elapsed : α} :
    owedFrom timeStep elapsed = ⊤ ↔ ∀ j, timeStep ≤ restAfter timeStep elapsed j := by
  rw [owedFrom, firstIndex_eq_top]
  exact forall_congr' fun j ↦ not_not

/-- The collected time takes no value twice before a drive comes back: it would take the same values
over and over again. -/
theorem restAfter_injOn {timeStep elapsed : α} {n : ℕ} (h : owedFrom timeStep elapsed = n) {i j : ℕ}
    (hij : i < j) (hj : j ≤ n) : restAfter timeStep elapsed i ≠ restAfter timeStep elapsed j := by
  obtain ⟨hn, hlt⟩ := firstIndex_eq_coe h
  intro heq
  -- the time that ends the drive would have been there `j - i` cycles before
  have hshift : restAfter timeStep elapsed (n - j + i) = restAfter timeStep elapsed n := by
    conv_rhs => rw [← Nat.sub_add_cancel hj]
    rw [restAfter, restAfter, Function.iterate_add_apply, Function.iterate_add_apply]
    exact congrArg _ heq
  exact hlt (n - j + i) (by omega) (hshift ▸ hn)

end Owed

/-! ## A drive is a run -/

section Drive

variable {α : Type} [OfScientific α] [Add α] [Sub α] [LE α] [DecidableLE α]

/-- The number of cycles that a drive of `dt` seconds makes of a machine that nothing stops. -/
noncomputable def owed (c : Clock α) (dt : α) : ℕ∞ := owedFrom c.timeStep (c.collect dt).elapsed

omit [Add α] in
/-- A drive that the clock or the machine brings to an end is the run of so many cycles. -/
theorem driveFrom_eq_run {timeStep : α} {watched : UInt16 → Bool} {k : ℕ} :
    ∀ (done : ℕ) {elapsed : α} {m : Machine},
      (k : ℕ∞) = min (owedFrom timeStep elapsed) (m.firstStop watched) →
      ∃ clock,
        driveFrom timeStep watched done elapsed m = some ⟨clock, m.runFrom watched done k⟩ := by
  -- on the number of cycles, which each cycle that goes on brings down by one
  induction k with
  | zero =>
    intro done elapsed m hk
    have hroom : ¬timeStep ≤ elapsed := by
      intro h
      rw [owedFrom_of_le h, Machine.firstStop_eq, min_add_add_right] at hk
      exact absurd hk.symm (by simp)
    rw [driveFrom, if_neg hroom]
    exact ⟨_, rfl⟩
  | succ k ih =>
    intro done elapsed m hk
    have hroom : timeStep ≤ elapsed := by
      by_contra h
      simp [owedFrom_of_not_le h] at hk
    rw [driveFrom, if_pos hroom, Machine.runFrom]
    cases hs : m.step with
    | error fault last => exact ⟨_, rfl⟩
    | ok outcome last =>
      cases hw : watched last.pc with
      | true => exact ⟨⟨timeStep, 0.0⟩, by simp [hw]⟩
      | false =>
        rw [owedFrom_of_le hroom, Machine.firstStop_of_ok hs hw, min_add_add_right] at hk
        simp only [hw, Bool.false_eq_true, if_false]
        exact ih _ ((ENat.add_left_injective_of_ne_top ENat.one_ne_top) hk)

omit [Add α] in
/-- What is shown of drives that come back, cycle by cycle: a drive ends for want of time, with a
fault or with a landing, or it goes on as the drive of the machine that its first cycle leaves. -/
theorem driveFrom_induct {timeStep : α} {watched : UInt16 → Bool}
    {motive : ℕ → α → Machine → Driven α → Prop}
    (spent : ∀ {done elapsed m}, ¬timeStep ≤ elapsed →
      motive done elapsed m ⟨⟨timeStep, elapsed⟩, ⟨m, done, none⟩⟩)
    (faulted : ∀ {done elapsed m fault last}, timeStep ≤ elapsed →
      m.step = .error fault last →
      motive done elapsed m ⟨⟨timeStep, 0.0⟩, ⟨last, done + 1, some (.faulted fault)⟩⟩)
    (landed : ∀ {done elapsed m outcome last}, timeStep ≤ elapsed →
      m.step = .ok outcome last → watched last.pc = true →
      motive done elapsed m ⟨⟨timeStep, 0.0⟩, ⟨last, done + 1, some .watched⟩⟩)
    (onward : ∀ {done elapsed m outcome last r}, timeStep ≤ elapsed →
      m.step = .ok outcome last → watched last.pc = false →
      motive (done + 1) (elapsed - timeStep) last r → motive done elapsed m r)
    {done : ℕ} {elapsed : α} {m : Machine} {r : Driven α}
    (h : driveFrom timeStep watched done elapsed m = some r) : motive done elapsed m r := by
  refine driveFrom.partial_correctness timeStep watched motive ?_ done elapsed m r h
  -- what holds of the results of `loop` has to hold of those of one cycle more
  intro loop ih done elapsed m r hr
  split at hr
  · next hroom =>
    cases hs : m.step with
    | error fault last =>
      rw [hs] at hr
      cases hr
      exact faulted hroom hs
    | ok outcome last =>
      cases hw : watched last.pc with
      | true =>
        simp only [hs, hw, if_true] at hr
        cases hr
        exact landed hroom hs hw
      | false =>
        simp only [hs, hw, Bool.false_eq_true, if_false] at hr
        exact onward hroom hs hw (ih _ _ _ _ hr)
  · next hspent =>
    cases hr
    exact spent hspent

omit [Add α] in
theorem min_ne_top_of_driveFrom {timeStep : α} {watched : UInt16 → Bool} {done : ℕ} {elapsed : α}
    {m : Machine} {r : Driven α} (h : driveFrom timeStep watched done elapsed m = some r) :
    min (owedFrom timeStep elapsed) (m.firstStop watched) ≠ ⊤ := by
  refine driveFrom_induct
    (motive := fun _ elapsed m _ ↦ min (owedFrom timeStep elapsed) (m.firstStop watched) ≠ ⊤)
    ?_ ?_ ?_ ?_ h
  · intro done elapsed m hspent
    simp [owedFrom_of_not_le hspent]
  · intro done elapsed m fault last _ hs
    simp [Machine.firstStop_of_error hs]
  · intro done elapsed m outcome last _ hs hw
    simp [Machine.firstStop_of_watched hs hw]
  · intro done elapsed m outcome last r hroom hs hw hrest
    rw [owedFrom_of_le hroom, Machine.firstStop_of_ok hs hw, min_add_add_right]
    simpa using hrest

omit [Add α] in
theorem timeStep_of_driveFrom {timeStep : α} {watched : UInt16 → Bool} {done : ℕ} {elapsed : α}
    {m : Machine} {r : Driven α} (h : driveFrom timeStep watched done elapsed m = some r) :
    r.clock.timeStep = timeStep := by
  refine driveFrom_induct (motive := fun _ _ _ r ↦ r.clock.timeStep = timeStep) ?_ ?_ ?_ ?_ h
  · exact fun _ ↦ rfl
  · exact fun _ _ ↦ rfl
  · exact fun _ _ _ ↦ rfl
  · exact fun _ _ _ hrest ↦ hrest

omit [Add α] in
/-- A drive that nothing stopped has made a cycle for every time step that the elapsed time left
room for, and the rest is left in its clock. -/
theorem rest_of_driveFrom {timeStep : α} {watched : UInt16 → Bool} {done : ℕ} {elapsed : α}
    {m : Machine} {r : Driven α} (h : driveFrom timeStep watched done elapsed m = some r)
    (hhalt : r.run.halt = none) :
    ∃ n, r.run.cycles = done + n ∧ r.clock.elapsed = restAfter timeStep elapsed n ∧
      (∀ j < n, timeStep ≤ restAfter timeStep elapsed j) ∧
      ¬timeStep ≤ restAfter timeStep elapsed n := by
  refine driveFrom_induct
    (motive := fun done elapsed _ r ↦ r.run.halt = none →
      ∃ n, r.run.cycles = done + n ∧ r.clock.elapsed = restAfter timeStep elapsed n ∧
        (∀ j < n, timeStep ≤ restAfter timeStep elapsed j) ∧
        ¬timeStep ≤ restAfter timeStep elapsed n)
    ?_ ?_ ?_ ?_ h hhalt
  · intro done elapsed m hspent _
    exact ⟨0, rfl, rfl, fun j hj ↦ absurd hj j.not_lt_zero, hspent⟩
  · intro done elapsed m fault last _ _ hnone
    cases hnone
  · intro done elapsed m outcome last _ _ _ hnone
    cases hnone
  · intro done elapsed m outcome last r hroom _ _ ih hnone
    obtain ⟨n, hcycles, hrest, hlt, hspent⟩ := ih hnone
    refine ⟨n + 1, by omega, hrest, ?_, hspent⟩
    rintro (_ | j) hj
    · exact hroom
    · exact hlt j (Nat.lt_of_succ_lt_succ hj)

variable {c : Clock α} {m : Machine} {watched : UInt16 → Bool} {dt : α}

theorem drive_eq_none_iff :
    c.drive m watched dt = none ↔ min (c.owed dt) (m.firstStop watched) = ⊤ := by
  constructor
  · intro hnone
    by_contra htop
    obtain ⟨k, hk⟩ := ENat.ne_top_iff_exists.mp htop
    obtain ⟨clock, hrun⟩ := driveFrom_eq_run 0 hk
    rw [drive, hrun] at hnone
    exact Option.some_ne_none _ hnone
  · intro htop
    by_contra hsome
    obtain ⟨r, hr⟩ := Option.ne_none_iff_exists'.mp hsome
    exact min_ne_top_of_driveFrom hr htop

/-- **A drive is a run.** If it comes back, it is the run of the cycles that the clock owes, or of
fewer if the machine is stopped before. -/
theorem run_of_drive {r : Driven α} (h : c.drive m watched dt = some r) :
    ∃ k : ℕ, (k : ℕ∞) = min (c.owed dt) (m.firstStop watched) ∧ r.run = m.run watched k ∧
      m.EndsAt watched k r.run := by
  obtain ⟨k, hk⟩ := ENat.ne_top_iff_exists.mp (min_ne_top_of_driveFrom h)
  obtain ⟨clock, hrun⟩ := driveFrom_eq_run 0 hk
  obtain rfl : (⟨clock, m.run watched k⟩ : Driven α) = r := Option.some.inj (hrun.symm.trans h)
  obtain ⟨j, hj, hends⟩ := m.run_endsAt watched k
  -- nothing stops the counted run before its count, since nothing stopped the drive
  have hle : (k : ℕ∞) ≤ m.firstStop watched := hk.le.trans (min_le_right _ _)
  rw [min_eq_left hle, Nat.cast_inj] at hj
  exact ⟨k, hk, rfl, hj ▸ hends⟩

/-- The owed cycles are what a drive makes of a machine that nothing stops. -/
theorem owed_eq_iff (hnever : m.firstStop watched = ⊤) {n : ℕ} :
    c.owed dt = n ↔ ∃ r, c.drive m watched dt = some r ∧ r.run.cycles = n := by
  constructor
  · intro hn
    have hmin : (n : ℕ∞) = min (c.owed dt) (m.firstStop watched) := by
      rw [hn, hnever, min_eq_left le_top]
    obtain ⟨clock, hrun⟩ := driveFrom_eq_run 0 hmin
    obtain ⟨k, hk, -, hends⟩ := run_of_drive hrun
    rw [← hmin, Nat.cast_inj] at hk
    exact ⟨_, hrun, hends.cycles.trans hk⟩
  · rintro ⟨r, hr, rfl⟩
    obtain ⟨k, hk, -, hends⟩ := run_of_drive hr
    rw [hends.cycles, hk, hnever, min_eq_left le_top]

end Drive

/-! ## How many cycles can be owed -/

/-- A clock in single precision owes fewer cycles than there are bit patterns, unless it owes
all. -/
theorem owed_lt_size {c : Clock Float32} {dt : Float32} {n : ℕ} (h : c.owed dt = n) :
    n < UInt32.size := by
  -- the times up to the one that ends the drive all have patterns of their own
  let pattern (j : Fin (n + 1)) : Fin UInt32.size :=
    (restAfter c.timeStep (c.collect dt).elapsed j).toBits.toFin
  have hne : ∀ i j : Fin (n + 1), i < j → pattern i ≠ pattern j := by
    intro i j hij heq
    refine restAfter_injOn h hij (Nat.le_of_lt_succ j.isLt) ?_
    exact Single.toBits_inj (UInt32.toFin_inj.mp heq)
  have hinj : Function.Injective pattern := by
    intro i j heq
    rcases lt_trichotomy i j with hij | hij | hij
    · exact absurd heq (hne i j hij)
    · exact hij
    · exact absurd heq.symm (hne j i hij)
  have hcard := Fintype.card_le_of_injective pattern hinj
  rw [Fintype.card_fin, Fintype.card_fin] at hcard
  exact hcard

end Clock

end ChipEight
