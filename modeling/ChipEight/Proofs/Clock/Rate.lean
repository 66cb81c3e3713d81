import ChipEight.Proofs.Clock.Exact

/-!
# Rates that are kept

In exact numbers cycles keep pace with the rate as long as the limit on collected time cuts nothing
off. Whether it does depends on the rate. At twenty cycles per second and more, a time step is at
most half of the limit, and short drives never reach it. Below that, drives can be timed to lose
more and more. Below ten cycles per second a time step is longer than the limit, and there is no
cycle at all.
-/

namespace ChipEight

namespace Clock

variable {m : Machine} {rate timeStep : ℚ} {dts : List ℚ}

/-! ## Drives that lose time -/

/-- The length of a drive after which the clock is half way between half of the limit and a time
step, if two of them follow a cycle that began with the limit. -/
def approach (timeStep : ℚ) : ℚ := 3 / 4 * timeStep - 3 / 80

/-- Rounds of three drives: two that leave room for no cycle, and one that makes the clock reach the
limit. -/
def rounds (timeStep : ℚ) : ℕ → List ℚ
  | 0 => []
  | n + 1 => approach timeStep :: approach timeStep :: 1 / 20 :: rounds timeStep n

theorem sum_rounds (timeStep : ℚ) (n : ℕ) :
    (rounds timeStep n).sum = n * (3 / 2 * timeStep - 1 / 40) := by
  induction n with
  | zero => simp [rounds]
  | succ n ih =>
    simp only [rounds, List.sum_cons, ih, approach]
    push_cast
    ring

theorem short_rounds (hlo : 1 / 20 < timeStep) (hhi : timeStep ≤ 1 / 10) (n : ℕ) :
    Short (rounds timeStep n) := by
  have happroach : 0 ≤ approach timeStep ∧ approach timeStep ≤ 1 / 20 := by
    rw [approach]
    constructor <;> linarith
  induction n with
  | zero => exact List.forall_mem_nil _
  | succ n ih =>
    refine List.forall_mem_cons.mpr ⟨happroach, List.forall_mem_cons.mpr ⟨happroach, ?_⟩⟩
    exact List.forall_mem_cons.mpr ⟨by norm_num, ih⟩

theorem exists_idle_drive (hhi : timeStep ≤ 1 / 10) (hm : m.NeverFails) (elapsed dt : ℚ)
    (hnonneg : 0 ≤ elapsed + dt) (hlt : elapsed + dt < timeStep) :
    ∃ r, drive ⟨timeStep, elapsed⟩ m (fun _ ↦ false) dt = some r ∧ r.run.machine.NeverFails ∧
      r.run.cycles = 0 ∧ r.clock = ⟨timeStep, elapsed + dt⟩ := by
  have hts : 0 < timeStep := hnonneg.trans_lt hlt
  have htotal : min (elapsed + dt) (1 / 10) = elapsed + dt := min_eq_left (hlt.le.trans hhi)
  obtain ⟨r, hr, hnever, hcycles, hclock⟩ :=
    exists_drive (n := 0) hts hm htotal hnonneg (by simpa using hnonneg) (by simpa using hlt)
  rw [Nat.cast_zero, zero_mul, sub_zero] at hclock
  exact ⟨r, hr, hnever, hcycles, hclock⟩

/-- A drive that reaches the limit makes one cycle, whatever is cut off. -/
theorem exists_cut_drive (hlo : 1 / 20 < timeStep) (hhi : timeStep ≤ 1 / 10) (hm : m.NeverFails)
    (elapsed dt : ℚ) (hcut : 1 / 10 ≤ elapsed + dt) :
    ∃ r, drive ⟨timeStep, elapsed⟩ m (fun _ ↦ false) dt = some r ∧ r.run.machine.NeverFails ∧
      r.run.cycles = 1 ∧ r.clock = ⟨timeStep, 1 / 10 - timeStep⟩ := by
  have hts : 0 < timeStep := by linarith
  obtain ⟨r, hr, hnever, hcycles, hclock⟩ :=
    exists_drive (n := 1) hts hm (min_eq_right hcut) (by norm_num) (by simpa using hhi)
      (by push_cast; linarith)
  rw [Nat.cast_one, one_mul] at hclock
  exact ⟨r, hr, hnever, hcycles, hclock⟩

/-- Every round makes one cycle, although it takes longer than a time step. -/
theorem exists_rounds (hlo : 1 / 20 < timeStep) (hhi : timeStep ≤ 1 / 10) (hm : m.NeverFails)
    (n : ℕ) :
    ∃ p, driveAll ⟨timeStep, 1 / 10 - timeStep⟩ m (rounds timeStep n) = some p ∧ p.cycles = n := by
  have happroach : approach timeStep = 3 / 4 * timeStep - 3 / 80 := rfl
  induction n generalizing m with
  | zero => exact ⟨_, rfl, rfl⟩
  | succ n ih =>
    obtain ⟨r₁, h₁, hnever, hzero, hclock⟩ := exists_idle_drive hhi hm (1 / 10 - timeStep)
      (approach timeStep) (by linarith) (by linarith)
    obtain ⟨r₂, h₂, hnever, hzero', hclock'⟩ := exists_idle_drive hhi hnever
      (1 / 10 - timeStep + approach timeStep) (approach timeStep) (by linarith) (by linarith)
    obtain ⟨r₃, h₃, hnever, hone, hclock''⟩ := exists_cut_drive hlo hhi hnever
      (1 / 10 - timeStep + approach timeStep + approach timeStep) (1 / 20) (by linarith)
    obtain ⟨p, hp, hcycles⟩ := ih hnever
    rw [← hclock] at h₂
    rw [← hclock'] at h₃
    rw [← hclock''] at hp
    refine ⟨_, driveAll_cons h₁ (driveAll_cons h₂ (driveAll_cons h₃ hp)), ?_⟩
    dsimp only
    omega

/-! ## Kept rates -/

/-- A clock of the rate makes as many cycles as the rate says, give or take one, whatever short
drives it makes of a machine that never fails. -/
def KeepsRate (rate : ℚ) : Prop :=
  ∀ m : Machine, m.NeverFails → ∀ dts, Short dts →
    ∃ p, driveAll (ofRate rate) m dts = some p ∧ |p.cycles - rate * dts.sum| ≤ 1

/-- A clock of the rate makes a cycle if only enough time passes. -/
def MakesProgress (rate : ℚ) : Prop :=
  ∃ enough : ℚ, ∀ m : Machine, m.NeverFails → ∀ dts, Short dts → enough ≤ dts.sum →
    ∃ p, driveAll (ofRate rate) m dts = some p ∧ 0 < p.cycles

theorem timeStep_le_iff {bound : ℚ} (hbound : 0 < bound) (h : 1 ≤ rate) :
    1 / rate ≤ 1 / bound ↔ bound ≤ rate :=
  one_div_le_one_div (zero_lt_one.trans_le h) hbound

theorem exists_accounts_ofRate (h : 1 ≤ rate) (hm : m.NeverFails) (hdts : Short dts) :
    ∃ p, driveAll (ofRate rate) m dts = some p ∧ Accounts ⟨1 / rate, 0⟩ dts p := by
  rw [ofRate_eq h]
  exact exists_accounts le_rfl (one_div_pos.mpr (zero_lt_one.trans_le h)) hm hdts

theorem keepsRate_of_le (h : 20 ≤ rate) : KeepsRate rate := by
  intro m hm dts hdts
  have hone : 1 ≤ rate := by linarith
  have hpos : 0 < rate := by linarith
  obtain ⟨p, hp, haccounts⟩ := exists_accounts_ofRate hone hm hdts
  refine ⟨p, hp, ?_⟩
  have hkept := haccounts.kept ((timeStep_le_iff (by norm_num) hone).mpr h)
  have hnonneg := haccounts.nonneg
  have hlt := haccounts.lt
  dsimp only at hkept hlt
  -- what the cycles are short of is what is left in the clock
  have hshort : rate * dts.sum - p.cycles = rate * p.clock.elapsed := by
    field_simp at hkept
    linarith
  rw [lt_div_iff₀ hpos] at hlt
  rw [abs_le]
  have hrest : 0 ≤ rate * p.clock.elapsed := mul_nonneg hpos.le hnonneg
  constructor <;> linarith

theorem makesProgress_of_le (h : 10 ≤ rate) : MakesProgress rate := by
  refine ⟨1 / rate, fun m hm dts hdts henough ↦ ?_⟩
  have hone : 1 ≤ rate := by linarith
  obtain ⟨p, hp, haccounts⟩ := exists_accounts_ofRate hone hm hdts
  refine ⟨p, hp, Nat.pos_of_ne_zero fun hzero ↦ ?_⟩
  have hstarted := haccounts.started ((timeStep_le_iff (by norm_num) hone).mpr h) hzero
  rw [zero_add] at hstarted
  exact absurd henough (not_le_of_gt hstarted)

theorem cycles_eq_zero_of_lt (hone : 1 ≤ rate) (h : rate < 10) (hm : m.NeverFails)
    (hdts : Short dts) : ∃ p, driveAll (ofRate rate) m dts = some p ∧ p.cycles = 0 := by
  obtain ⟨p, hp, haccounts⟩ := exists_accounts_ofRate hone hm hdts
  refine ⟨p, hp, haccounts.frozen ?_⟩
  exact lt_of_not_ge fun hle ↦ absurd ((timeStep_le_iff (by norm_num) hone).mp hle) (not_le_of_gt h)

theorem short_replicate (n : ℕ) : Short (List.replicate n (1 / 20)) := by
  intro dt hdt
  rw [List.eq_of_mem_replicate hdt]
  norm_num

theorem not_makesProgress_of_lt (hone : 1 ≤ rate) (h : rate < 10) : ¬MakesProgress rate := by
  rintro ⟨enough, hprogress⟩
  obtain ⟨n, hn⟩ := exists_nat_ge (enough * 20)
  have hsum : enough ≤ (List.replicate n (1 / 20 : ℚ)).sum := by
    rw [List.sum_replicate, nsmul_eq_mul]
    linarith
  obtain ⟨p, hp, hpos⟩ := hprogress _ neverFails_jumpingInPlace _ (short_replicate n) hsum
  obtain ⟨q, hq, hzero⟩ := cycles_eq_zero_of_lt hone h neverFails_jumpingInPlace (short_replicate n)
  obtain rfl := Option.some.inj (hp.symm.trans hq)
  omega

theorem not_keepsRate_of_lt_ten (hone : 1 ≤ rate) (h : rate < 10) : ¬KeepsRate rate := by
  intro hkeeps
  obtain ⟨p, hp, hle⟩ := hkeeps _ neverFails_jumpingInPlace _ (short_replicate 21)
  obtain ⟨q, hq, hzero⟩ :=
    cycles_eq_zero_of_lt hone h neverFails_jumpingInPlace (short_replicate 21)
  obtain rfl := Option.some.inj (hp.symm.trans hq)
  rw [hzero, List.sum_replicate, abs_le] at hle
  norm_num at hle
  linarith

/-- Between ten and twenty cycles per second rounds fall behind, each by the same amount. -/
theorem not_keepsRate_of_lt_twenty (hlo : 10 ≤ rate) (hhi : rate < 20) : ¬KeepsRate rate := by
  intro hkeeps
  have hone : 1 ≤ rate := by linarith
  have hpos : 0 < rate := by linarith
  have hstep : 1 / 20 < 1 / rate := one_div_lt_one_div_of_lt hpos hhi
  have hstep' : 1 / rate ≤ 1 / 10 := (timeStep_le_iff (by norm_num) hone).mpr hlo
  obtain ⟨n, hn⟩ := exists_nat_gt (40 / (20 - rate))
  rw [div_lt_iff₀ (by linarith)] at hn
  -- the first drive brings the clock to where the rounds begin
  obtain ⟨r, hr, hnever, hzero, hclock⟩ := exists_idle_drive hstep' neverFails_jumpingInPlace 0
    (1 / 10 - 1 / rate) (by linarith) (by linarith)
  rw [zero_add] at hclock
  obtain ⟨p, hp, hcycles⟩ := exists_rounds hstep hstep' hnever n
  rw [← hclock] at hp
  have hshort : Short ((1 / 10 - 1 / rate) :: rounds (1 / rate) n) :=
    List.forall_mem_cons.mpr ⟨by constructor <;> linarith, short_rounds hstep hstep' n⟩
  obtain ⟨q, hq, hle⟩ := hkeeps _ neverFails_jumpingInPlace _ hshort
  rw [ofRate_eq hone, driveAll_cons hr hp] at hq
  obtain rfl := Option.some.inj hq
  have hbehind : rate * ((1 / 10 - 1 / rate) :: rounds (1 / rate) n).sum - n
      = rate / 10 - 1 + n * (20 - rate) / 40 := by
    rw [List.sum_cons, sum_rounds]
    field_simp
    ring
  rw [hzero, hcycles, Nat.zero_add, abs_le] at hle
  linarith

/-- **Which rates are kept.** Of the rates that a clock admits it keeps those of at least twenty
cycles per second, and makes progress at those of at least ten. -/
theorem keepsRate_iff (h : 1 ≤ rate) :
    (KeepsRate rate ↔ 20 ≤ rate) ∧ (MakesProgress rate ↔ 10 ≤ rate) := by
  refine ⟨⟨?_, keepsRate_of_le⟩, ⟨?_, makesProgress_of_le⟩⟩
  · intro hkeeps
    by_contra hlt
    rcases lt_or_ge rate 10 with hten | hten
    · exact not_keepsRate_of_lt_ten h hten hkeeps
    · exact not_keepsRate_of_lt_twenty hten (lt_of_not_ge hlt) hkeeps
  · intro hprogress
    by_contra hlt
    exact not_makesProgress_of_lt h (lt_of_not_ge hlt) hprogress

/-- Twenty cycles per second are kept and nineteen are not. At ten there is progress, and at nine
there is none. -/
theorem keepsRate_on_both_sides :
    KeepsRate 20 ∧ ¬KeepsRate 19 ∧ MakesProgress 10 ∧ ¬MakesProgress 9 := by
  refine ⟨(keepsRate_iff (by norm_num)).1.mpr le_rfl, ?_,
    (keepsRate_iff (by norm_num)).2.mpr le_rfl, ?_⟩
  · rw [(keepsRate_iff (by norm_num)).1]
    norm_num
  · rw [(keepsRate_iff (by norm_num)).2]
    norm_num

/-- Three drives that take nine sixty-fourths of a second in all. -/
def threeDrives : List ℚ := [3 / 64, 3 / 64, 3 / 64]

/-- At eight cycles per second they make no cycle, although more than one is due. -/
theorem not_keepsRate_eight :
    jumpingInPlace.NeverFails ∧ Short threeDrives ∧
      ∃ p, driveAll (ofRate 8) jumpingInPlace threeDrives = some p ∧ p.cycles = 0 ∧
        1 < |p.cycles - 8 * threeDrives.sum| := by
  have hshort : Short threeDrives := by
    intro dt hdt
    obtain rfl : dt = 3 / 64 := by simpa [threeDrives] using hdt
    norm_num
  have hone : (1 : ℚ) ≤ 8 := by norm_num
  obtain ⟨p, hp, hzero⟩ :=
    cycles_eq_zero_of_lt hone (by norm_num) neverFails_jumpingInPlace hshort
  refine ⟨neverFails_jumpingInPlace, hshort, p, hp, hzero, ?_⟩
  have hbehind : (p.cycles : ℚ) - 8 * threeDrives.sum = -(9 / 8) := by
    rw [hzero]
    norm_num [threeDrives]
  rw [hbehind]
  norm_num [abs_of_neg]

end Clock

end ChipEight
