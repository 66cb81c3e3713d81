import ChipEight.Proofs.Clock.Drive
import ChipEight.Proofs.Clock.TimeStep
import ChipEight.Proofs.Single.Difference
import ChipEight.Text.Numbers

/-!
# Drives that come to an end

A drive ends if its cycles use the collected time up. Each cycle takes the time step off it, but in
single precision a time step may be absorbed by what it is subtracted from. This happens exactly to
rates of at least `2 ^ 28` cycles per second: below, every cycle leaves less time than there was,
whatever time was collected; from there on, the longest collected time is taken down by at most one
unit in its last place and then stays what it is, so that nothing but the machine ends the drive.
-/

namespace ChipEight

namespace Clock

open Single Float.Model Float.Model.UnpackedFloat

variable {rate elapsed : Float32}

/-! ## Collected time -/

/-- The longest collected time is a mantissa of twenty-four bits, the last of which is one. -/
theorem units_longest : units longest = 0xCCCCCD * 2 ^ 122 := rfl

theorem units_longest_pos : 0 < units longest := by
  rw [units_longest]
  positivity

theorem atMostLongest_le (x : Float32) : atMostLongest x ≤ longest := by
  rw [atMostLongest]
  split
  · assumption
  · decide +kernel

/-! ## Below the line -/

/-- Below the line every cycle uses time up. -/
theorem elapsed_sub_lt (h : ¬absorbedRate ≤ rate) (hstep : (ofRate rate).timeStep ≤ elapsed)
    (hle : elapsed ≤ longest) :
    elapsed - (ofRate rate).timeStep < elapsed ∧
      units (elapsed - (ofRate rate).timeStep) < units elapsed := by
  have hts := lt_units_timeStep h
  generalize (ofRate rate).timeStep = timeStep at *
  have hts0 : 0 < units timeStep := (Nat.two_pow_pos 121).trans hts
  have hpos := units_pos_of_le hts0 hstep hle units_longest_pos
  have hstep' := (le_iff_units hts0 hpos).mp hstep
  have hle' := (le_iff_units hpos units_longest_pos).mp hle
  rw [units_longest] at hle'
  have hlt : units elapsed < 2 ^ (24 + 122) := hle'.trans_lt (by norm_num)
  have hmax : units elapsed < 2 ^ 250 := hlt.trans (by norm_num)
  -- the time step is more than half a unit in the last place of the longest time
  have hunits := units_sub_lt (p := 122) hstep' hlt (by norm_num) (by omega)
  exact ⟨(sub_lt_iff hts0 hstep' hmax).mpr hunits, hunits⟩

theorem restAfter_succ (timeStep elapsed : Float32) (j : ℕ) :
    restAfter timeStep elapsed (j + 1) = restAfter timeStep elapsed j - timeStep :=
  Function.iterate_succ_apply' _ j elapsed

theorem owedFrom_ne_top (h : ¬absorbedRate ≤ rate) (hle : elapsed ≤ longest) :
    owedFrom (ofRate rate).timeStep elapsed ≠ ⊤ := by
  intro htop
  rw [owedFrom_eq_top] at htop
  have hts0 : 0 < units (ofRate rate).timeStep := (Nat.two_pow_pos 121).trans (lt_units_timeStep h)
  have hpos : 0 < units elapsed := units_pos_of_le hts0 (htop 0) hle units_longest_pos
  have hle' := (le_iff_units hpos units_longest_pos).mp hle
  -- each cycle takes at least one unit off, and there are only finitely many
  have hspent : ∀ j, 0 < units (restAfter (ofRate rate).timeStep elapsed j) ∧
      units (restAfter (ofRate rate).timeStep elapsed j) + j ≤ units elapsed := by
    intro j
    induction j with
    | zero => exact ⟨hpos, le_rfl⟩
    | succ j ih =>
      obtain ⟨hrest, hunits⟩ := ih
      have hlongest := (le_iff_units hrest units_longest_pos).mpr (by omega)
      obtain ⟨hlt, hlt'⟩ := elapsed_sub_lt h (htop j) hlongest
      have hnext := htop (j + 1)
      rw [restAfter_succ] at hnext ⊢
      exact ⟨units_pos_of_le hts0 hnext (le_of_lt hlt) hrest, by omega⟩
  have hbound := (hspent (units elapsed + 1)).2
  omega

/-! ## Above the line -/

/-- The longest collected time, and the time one unit in its last place below it. -/
def Stuck (elapsed : Float32) : Prop :=
  units elapsed = 0xCCCCCD * 2 ^ 122 ∨ units elapsed = 0xCCCCCC * 2 ^ 122

theorem Stuck.pos (h : Stuck elapsed) : 0 < units elapsed := by
  rcases h with h | h
  · rw [h]
    positivity
  · rw [h]
    positivity

/-- The greater of the two times may go down to the lesser one, which stays what it is. -/
theorem units_sub_of_stuck (h : absorbedRate ≤ rate) (he : Stuck elapsed) :
    (ofRate rate).timeStep ≤ elapsed ∧ Stuck (elapsed - (ofRate rate).timeStep) ∧
      (units elapsed = 0xCCCCCC * 2 ^ 122 →
        units (elapsed - (ofRate rate).timeStep) = 0xCCCCCC * 2 ^ 122) := by
  have hpos := he.pos
  rcases units_timeStep_le h with hzero | ⟨hts0, hts⟩
  · -- the infinite rate
    have hunits := units_sub_zero hpos hzero
    rw [Stuck, hunits]
    exact ⟨le_of_zero hzero hpos, he, id⟩
  · generalize (ofRate rate).timeStep = timeStep at *
    have hstep : units timeStep ≤ units elapsed := by
      rcases he with he | he <;> omega
    have hmax : units elapsed < 2 ^ 250 := by
      rcases he with he | he <;> rw [he] <;> norm_num
    refine ⟨(le_iff_units hts0 hpos).mpr hstep, ?_⟩
    rw [Stuck, units_sub hts0 hstep hmax]
    have hhalf : 2 * units timeStep ≤ 2 ^ 122 := by omega
    rcases he with he | he
    · -- the longest time has an odd mantissa, which may go down to the even one below
      rw [he]
      have hround := roundUnits_sub (m := 0xCCCCCD) (by decide) (by decide) hts0 hhalf
      exact ⟨hround.imp_right And.right, fun h ↦ absurd h (by norm_num)⟩
    · rw [he]
      have heven : ¬0xCCCCCC % 2 = 1 := by decide
      have hround := roundUnits_sub (m := 0xCCCCCC) (by decide) (by decide) hts0 hhalf
      have hsame := hround.resolve_right fun h ↦ heven h.1
      exact ⟨.inr hsame, fun _ ↦ hsame⟩

theorem owedFrom_longest (h : absorbedRate ≤ rate) :
    owedFrom (ofRate rate).timeStep longest = ⊤ := by
  have hstuck : ∀ j, Stuck (restAfter (ofRate rate).timeStep longest j) := by
    intro j
    induction j with
    | zero => exact .inl units_longest
    | succ j ih =>
      rw [restAfter_succ]
      exact (units_sub_of_stuck h ih).2.1
  rw [owedFrom_eq_top]
  exact fun j ↦ (units_sub_of_stuck h (hstuck j)).1

/-- The lesser one of the two times. -/
def absorbing : Float32 := .ofBits 0x3DCCCCCC

theorem units_absorbing : units absorbing = 0xCCCCCC * 2 ^ 122 := rfl

/-- Above the line a cycle may leave as much time as there was. -/
theorem not_absorbing_sub_lt (h : absorbedRate ≤ rate) :
    absorbing ≤ longest ∧ (ofRate rate).timeStep ≤ absorbing ∧
      ¬absorbing - (ofRate rate).timeStep < absorbing := by
  have hstuck : Stuck absorbing := .inr units_absorbing
  obtain ⟨hstep, -, hsame⟩ := units_sub_of_stuck h hstuck
  refine ⟨by decide +kernel, hstep, ?_⟩
  have hunits := hsame units_absorbing
  rw [lt_iff_units (by rw [hunits]; positivity) hstuck.pos, hunits, units_absorbing]
  exact lt_irrefl _

/-! ## Machines that nothing stops -/

def jumpingInPlace : Machine := ((Machine.powerOn ⟨0, 0⟩).load [0x12, 0x00]).1

theorem step_jumpingInPlace : jumpingInPlace.step = .ok .proceed jumpingInPlace := by
  refine Machine.step_eq_ok_iff.mpr ⟨0x1200, ?_, rfl, rfl, rfl⟩
  exact Machine.fetch_eq_ok_iff.mpr (by decide +kernel)

theorem after_jumpingInPlace (count : ℕ) : jumpingInPlace.after count = jumpingInPlace := by
  induction count with
  | zero => rfl
  | succ count ih => rw [Machine.after_succ, step_jumpingInPlace, Machine.left, ih]

theorem neverFails_jumpingInPlace : jumpingInPlace.NeverFails := by
  rintro k fault ⟨j, -, last, hstep⟩
  rw [after_jumpingInPlace, step_jumpingInPlace] at hstep
  cases hstep

theorem collect_ofRate (rate : Float32) : ((ofRate rate).collect 0.1).elapsed = longest := by
  have hsum : atMostLongest ((0.0 : Float32) + 0.1) = longest := by decide +kernel
  simp only [collect, ofRate]
  exact hsum

/-- Above the line a drive of a tenth of a second does not come back if nothing stops the
machine. -/
theorem drive_eq_none (h : absorbedRate ≤ rate) :
    (ofRate rate).drive jumpingInPlace (fun _ ↦ false) 0.1 = none := by
  rw [drive_eq_none_iff, neverFails_jumpingInPlace.firstStop_eq_top, owed, collect_ofRate,
    min_eq_left le_top]
  exact owedFrom_longest h

/-! ## The line -/

/-- The clocks that come about from one of a rate by driving machines. -/
inductive Reached (rate : Float32) : Clock Float32 → Prop
  | start : Reached rate (ofRate rate)
  | drive {c : Clock Float32} {r : Driven Float32} (m : Machine) (watched : UInt16 → Bool)
      (dt : Float32) : Reached rate c → c.drive m watched dt = some r → Reached rate r.clock

theorem Reached.timeStep_eq {c : Clock Float32} (h : Reached rate c) :
    c.timeStep = (ofRate rate).timeStep := by
  induction h with
  | start => rfl
  | drive m watched dt _ hdrive ih => exact (timeStep_of_driveFrom hdrive).trans ih

/-- **When drives end.** Every cycle of a clock uses collected time up, and every drive of every
machine comes back, exactly if the rate is less than `2 ^ 28` cycles per second or no number. -/
theorem drive_ends_iff (rate : Float32) :
    ((∀ elapsed, elapsed ≤ longest → (ofRate rate).timeStep ≤ elapsed →
        elapsed - (ofRate rate).timeStep < elapsed) ↔ ¬absorbedRate ≤ rate) ∧
    ((∀ c, Reached rate c → ∀ m watched dt, ∃ r, c.drive m watched dt = some r) ↔
      ¬absorbedRate ≤ rate) := by
  refine ⟨⟨?_, ?_⟩, ⟨?_, ?_⟩⟩
  · intro hlt h
    obtain ⟨hle, hstep, hnot⟩ := not_absorbing_sub_lt h
    exact hnot (hlt absorbing hle hstep)
  · intro h elapsed hle hstep
    exact (elapsed_sub_lt h hstep hle).1
  · intro hends h
    obtain ⟨r, hr⟩ := hends _ .start jumpingInPlace (fun _ ↦ false) 0.1
    rw [drive_eq_none h] at hr
    cases hr
  · intro h c hc m watched dt
    rw [← Option.ne_none_iff_exists', Ne, drive_eq_none_iff]
    intro htop
    have howed : owedFrom (ofRate rate).timeStep (c.collect dt).elapsed = ⊤ :=
      hc.timeStep_eq ▸ (min_eq_top.mp htop).1
    exact owedFrom_ne_top h (atMostLongest_le _) howed

/-- A clock of infinite rate has a time step of zero, which no collected time is too little for. -/
theorem infinite_drive_never_ends :
    (ofRate Single.infinity).drive jumpingInPlace (fun _ ↦ false) 0.1 = none :=
  drive_eq_none (by decide +kernel)

end Clock

end ChipEight
