import ChipEight.Proofs.Clock.Termination

/-!
# Clocks in exact numbers

Reckoned in exact numbers a clock is a division with remainder: a drive makes as many cycles as time
steps fit into the collected time, and what is left stays in the clock. Between drives no time gets
lost, and a drive loses some only if the collected time is over the limit.

The remainder is less than a time step, and a short drive adds no more than half of the limit. So
the limit is not reached if a time step is no longer than the other half. `Clock.Accounts` says what
several short drives amount to for time steps of that length, for longer ones, and for those longer
than the limit itself.
-/

namespace ChipEight

namespace Clock

/-! ## Several drives -/

/-- What several drives leave. -/
structure Progress (α : Type) where
  clock : Clock α
  machine : Machine
  /-- The cycles made in all. -/
  cycles : ℕ

/-- Drives a machine several times, each time for so many seconds, and watches for no address. -/
def driveAll {α : Type} [OfScientific α] [Add α] [Sub α] [LE α] [DecidableLE α] (c : Clock α)
    (m : Machine) : List α → Option (Progress α)
  | [] => some ⟨c, m, 0⟩
  | dt :: dts => do
    let first ← c.drive m (fun _ ↦ false) dt
    let rest ← driveAll first.clock first.run.machine dts
    return { rest with cycles := first.run.cycles + rest.cycles }

/-! ## One drive in exact numbers -/

variable {c : Clock ℚ} {m : Machine} {dt rate timeStep : ℚ} {dts : List ℚ}

theorem elapsed_collect (c : Clock ℚ) (dt : ℚ) :
    (c.collect dt).elapsed = min (c.elapsed + dt) (1 / 10) := by
  rw [collect, atMostLongest, min_def]
  norm_num [longest]

theorem ofRate_eq (h : 1 ≤ rate) : ofRate rate = ⟨1 / rate, 0⟩ := by
  have hone : (1.0 : ℚ) ≤ rate := by norm_num [h]
  rw [ofRate, atLeastOne, if_pos hone]
  norm_num

theorem restAfter_eq (timeStep elapsed : ℚ) (n : ℕ) :
    restAfter timeStep elapsed n = elapsed - n * timeStep := by
  induction n with
  | zero => simp [restAfter]
  | succ n ih =>
    rw [restAfter, Function.iterate_succ_apply', ← restAfter, ih]
    push_cast
    ring

theorem owedFrom_ne_top_of_pos (hts : 0 < timeStep) (elapsed : ℚ) :
    owedFrom timeStep elapsed ≠ ⊤ := by
  intro htop
  obtain ⟨n, hn⟩ := exists_nat_gt (elapsed / timeStep)
  have hroom := owedFrom_eq_top.mp htop n
  rw [div_lt_iff₀ hts] at hn
  rw [restAfter_eq] at hroom
  linarith

/-- What a drive of a machine that never fails leaves of the collected time. -/
structure Spent (c : Clock ℚ) (dt : ℚ) (r : Driven ℚ) : Prop where
  timeStep : r.clock.timeStep = c.timeStep
  /-- Every cycle has used up a time step. -/
  balance : (c.collect dt).elapsed = r.run.cycles * c.timeStep + r.clock.elapsed
  /-- There is no room for another cycle. -/
  lt : r.clock.elapsed < c.timeStep
  nonneg : 0 ≤ (c.collect dt).elapsed → 0 ≤ r.clock.elapsed

/-- **A drive is a division.** The drive of a machine that never fails comes back with quotient and
remainder of the collected time by the time step. -/
theorem exists_spent (hts : 0 < c.timeStep) (hm : m.NeverFails) (dt : ℚ) :
    ∃ r, c.drive m (fun _ ↦ false) dt = some r ∧ r.run.machine.NeverFails ∧ c.Spent dt r := by
  have hback : c.drive m (fun _ ↦ false) dt ≠ none := by
    intro hnone
    rw [drive_eq_none_iff, hm.firstStop_eq_top, min_eq_left le_top] at hnone
    exact owedFrom_ne_top_of_pos hts _ hnone
  obtain ⟨r, hr⟩ := Option.ne_none_iff_exists'.mp hback
  obtain ⟨k, -, -, hends⟩ := run_of_drive hr
  have hhalt : r.run.halt = none := by
    rcases hh : r.run.halt with _ | _ | fault
    · rfl
    · obtain ⟨j, -, outcome, last, -, hwatched⟩ := hends.watched_iff.mp hh
      exact absurd hwatched Bool.false_ne_true
    · exact absurd ((hends.faulted_iff fault).mp hh) (hm k fault)
  obtain ⟨n, hcycles, hrest, hlt, hspent⟩ := rest_of_driveFrom hr hhalt
  rw [Nat.zero_add] at hcycles
  rw [restAfter_eq] at hrest hspent
  refine ⟨r, hr, hends.machine ▸ hm.after k, timeStep_of_driveFrom hr, ?_, ?_, ?_⟩
  · rw [hcycles, hrest]
    ring
  · rw [hrest]
    exact lt_of_not_ge hspent
  · intro hnonneg
    rw [hrest]
    -- there was room for the last cycle, so it left something
    cases n with
    | zero => simpa using hnonneg
    | succ n =>
      have hroom := hlt n n.lt_succ_self
      rw [restAfter_eq] at hroom
      push_cast
      linarith

theorem Spent.cycles_eq {r : Driven ℚ} (h : c.Spent dt r) (hts : 0 < c.timeStep) {n : ℕ}
    (hle : n * c.timeStep ≤ (c.collect dt).elapsed)
    (hlt : (c.collect dt).elapsed < (n + 1) * c.timeStep)
    (hnonneg : 0 ≤ (c.collect dt).elapsed) : r.run.cycles = n := by
  have hbalance := h.balance
  have hrest := h.nonneg hnonneg
  have hspent := h.lt
  have hlower : (n : ℚ) < r.run.cycles + 1 := by
    rw [← mul_lt_mul_iff_left₀ hts]
    linarith
  have hupper : (r.run.cycles : ℚ) < n + 1 := by
    rw [← mul_lt_mul_iff_left₀ hts]
    linarith
  have hlower : n < r.run.cycles + 1 := by exact_mod_cast hlower
  have hupper : r.run.cycles < n + 1 := by exact_mod_cast hupper
  omega

/-- Quotient and remainder of one drive, once the quotient has been guessed. -/
theorem exists_drive (hts : 0 < timeStep) (hm : m.NeverFails) {elapsed dt total : ℚ} {n : ℕ}
    (htotal : min (elapsed + dt) (1 / 10) = total) (hnonneg : 0 ≤ total)
    (hle : n * timeStep ≤ total) (hlt : total < (n + 1) * timeStep) :
    ∃ r, drive ⟨timeStep, elapsed⟩ m (fun _ ↦ false) dt = some r ∧ r.run.machine.NeverFails ∧
      r.run.cycles = n ∧ r.clock = ⟨timeStep, total - n * timeStep⟩ := by
  rw [← elapsed_collect ⟨timeStep, elapsed⟩] at htotal
  subst htotal
  obtain ⟨r, hr, hnever, hspent⟩ := exists_spent (c := ⟨timeStep, elapsed⟩) hts hm dt
  have hcycles := hspent.cycles_eq hts hle hlt hnonneg
  have hstep := hspent.timeStep
  have hrest := hspent.balance
  rw [hcycles] at hrest
  refine ⟨r, hr, hnever, hcycles, ?_⟩
  obtain ⟨⟨step, rest⟩, run⟩ := r
  dsimp only at hstep hrest
  rw [hstep, hrest]
  simp

/-! ## Accounts of several drives -/

theorem driveAll_cons {r : Driven ℚ} {p : Progress ℚ}
    (hr : c.drive m (fun _ ↦ false) dt = some r)
    (hp : driveAll r.clock r.run.machine dts = some p) :
    driveAll c m (dt :: dts) = some { p with cycles := r.run.cycles + p.cycles } := by
  simp [driveAll, hr, hp]

/-- No drive is a long one: each takes at most half of the time that may be held. -/
def Short (dts : List ℚ) : Prop := ∀ dt ∈ dts, 0 ≤ dt ∧ dt ≤ 1 / 20

/-- What the cycles of several drives say about the time that has passed. -/
structure Accounts (c : Clock ℚ) (dts : List ℚ) (p : Progress ℚ) : Prop where
  nonneg : 0 ≤ p.clock.elapsed
  lt : p.clock.elapsed < c.timeStep
  /-- If a time step is at most half of what may be held, no time gets lost. -/
  kept : c.timeStep ≤ 1 / 20 → c.elapsed + dts.sum = p.cycles * c.timeStep + p.clock.elapsed
  /-- If it is at most all of it, no time gets lost before the first cycle. -/
  started : c.timeStep ≤ 1 / 10 → p.cycles = 0 → c.elapsed + dts.sum < c.timeStep
  /-- If it is more, there is no cycle. -/
  frozen : 1 / 10 < c.timeStep → p.cycles = 0

theorem Accounts.cons {r : Driven ℚ} {p : Progress ℚ} (hnonneg : 0 ≤ c.elapsed)
    (hlt : c.elapsed < c.timeStep) (hdt : 0 ≤ dt ∧ dt ≤ 1 / 20) (hr : c.Spent dt r)
    (hp : Accounts r.clock dts p) :
    Accounts c (dt :: dts) { p with cycles := r.run.cycles + p.cycles } := by
  have hts : 0 < c.timeStep := hnonneg.trans_lt hlt
  have hsum : 0 ≤ c.elapsed + dt := add_nonneg hnonneg hdt.1
  have hbalance := hr.balance
  have hrest := hr.lt
  have hcollect : 0 ≤ (c.collect dt).elapsed := by
    rw [elapsed_collect]
    exact le_min hsum (by norm_num)
  have hlimit : (c.collect dt).elapsed ≤ 1 / 10 := by
    rw [elapsed_collect]
    exact min_le_right _ _
  constructor
  · exact hp.nonneg
  · exact hr.timeStep ▸ hp.lt
  · intro hstep
    have hkept := hp.kept (hr.timeStep.le.trans hstep)
    -- the remainder and the drive are both at most half of the limit
    rw [elapsed_collect, min_eq_left (by linarith)] at hbalance
    rw [hr.timeStep] at hkept
    push_cast
    rw [List.sum_cons]
    linarith
  · intro hstep hnone
    obtain ⟨hfirst, hothers⟩ := Nat.add_eq_zero_iff.mp hnone
    have hstarted := hp.started (hr.timeStep.le.trans hstep) hothers
    rw [hr.timeStep] at hstarted
    rw [hfirst, Nat.cast_zero, zero_mul, zero_add] at hbalance
    -- the limit leaves room for a cycle, so it was not reached
    have hcut : c.elapsed + dt ≤ 1 / 10 := by
      by_contra hcut
      rw [elapsed_collect, min_eq_right (by linarith)] at hbalance
      linarith
    rw [elapsed_collect, min_eq_left hcut] at hbalance
    rw [List.sum_cons]
    linarith
  · intro hstep
    have hfirst : r.run.cycles = 0 := by
      refine hr.cycles_eq hts (n := 0) ?_ ?_ hcollect
      · simpa using hcollect
      · push_cast
        linarith
    rw [hfirst, hp.frozen (hr.timeStep ▸ hstep)]

/-- Drives of a machine that never fails come back, and keep accounts. -/
theorem exists_accounts (hnonneg : 0 ≤ c.elapsed) (hlt : c.elapsed < c.timeStep)
    (hm : m.NeverFails) (hdts : Short dts) : ∃ p, driveAll c m dts = some p ∧ c.Accounts dts p := by
  induction dts generalizing c m with
  | nil =>
    refine ⟨_, rfl, hnonneg, hlt, ?_, ?_, fun _ ↦ rfl⟩
    · intro _
      simp
    · intro _ _
      simpa using hlt
  | cons dt dts ih =>
    obtain ⟨hdt, hdts⟩ := List.forall_mem_cons.mp hdts
    obtain ⟨r, hr, hnever, hspent⟩ := exists_spent (hnonneg.trans_lt hlt) hm dt
    have hrest : 0 ≤ r.clock.elapsed := by
      refine hspent.nonneg ?_
      rw [elapsed_collect]
      exact le_min (add_nonneg hnonneg hdt.1) (by norm_num)
    obtain ⟨p, hp, haccounts⟩ := ih hrest (hspent.timeStep ▸ hspent.lt) hnever hdts
    exact ⟨_, driveAll_cons hr hp, haccounts.cons hnonneg hlt hdt hspent⟩

end Clock

end ChipEight
