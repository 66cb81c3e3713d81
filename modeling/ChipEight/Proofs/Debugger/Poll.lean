import ChipEight.Debugger
import ChipEight.Proofs.Clock.Drive

/-!
# Polling and stepping

A running debugger drives its machine by the clock; a halted one steps it by a count. Both stop with
the first cycle that faults or lands on a breakpoint, so polling does what stepping the same number
of cycles does.
-/

namespace ChipEight

namespace Debugger

variable {d : Debugger}

/-- A step command stops with the first cycle that faults or lands on a breakpoint. -/
theorem stepped_endsAt (d : Debugger) (count : UInt32) :
    ∃ k : ℕ, (k : ℕ∞) = min (count.toNat : ℕ∞) (d.machine.firstStop d.stopsAt) ∧
      d.machine.EndsAt d.stopsAt k (d.stepped count) :=
  d.machine.run_endsAt d.stopsAt count.toNat

theorem exists_after_step (d : Debugger) (count : UInt32) :
    ∃ k : ℕ, (d.step count).1.machine = d.machine.after k := by
  obtain ⟨k, -, hends⟩ := d.stepped_endsAt count
  exact ⟨k, hends.machine⟩

theorem stepped_cycles_le {j : ℕ} (h : d.machine.LandsAt d.stopsAt j) (count : UInt32) :
    (d.stepped count).cycles ≤ j := by
  obtain ⟨k, hk, hends⟩ := d.stepped_endsAt count
  rw [hends.cycles]
  exact Machine.le_of_landsAt hk h

/-- What a poll that comes back says of the drive it made. -/
theorem poll_eq_some_iff (hrunning : d.running = true) {dt : Float32} {after : Debugger}
    {halt : Option Halt} :
    d.poll dt = some (after, halt) ↔
      ∃ r, d.driven dt = some r ∧ r.run.halt = halt ∧
        { d with machine := r.run.machine, clock := r.clock, running := r.run.halt.isNone }
          = after := by
  rw [poll, if_pos hrunning, Option.map_eq_some_iff]
  constructor
  · rintro ⟨r, hr, heq⟩
    obtain ⟨hafter, hhalt⟩ := Prod.mk.inj heq
    exact ⟨r, hr, hhalt, hafter⟩
  · rintro ⟨r, hr, rfl, rfl⟩
    exact ⟨r, hr, rfl⟩

theorem exists_after_of_poll {dt : Float32} {after : Debugger} {halt : Option Halt}
    (h : d.poll dt = some (after, halt)) :
    ∃ k : ℕ, after.machine = d.machine.after k ∧ after.program = d.program := by
  by_cases hrunning : d.running = true
  · obtain ⟨r, hr, -, rfl⟩ := (poll_eq_some_iff hrunning).mp h
    obtain ⟨k, -, -, hends⟩ := Clock.run_of_drive hr
    exact ⟨k, hends.machine, rfl⟩
  · rw [poll, if_neg hrunning] at h
    obtain ⟨rfl, -⟩ := Prod.mk.inj (Option.some.inj h)
    exact ⟨0, rfl, rfl⟩

theorem breakpoints_of_poll {dt : Float32} {after : Debugger} {halt : Option Halt}
    (h : d.poll dt = some (after, halt)) : after.breakpoints = d.breakpoints := by
  by_cases hrunning : d.running = true
  · obtain ⟨r, -, -, rfl⟩ := (poll_eq_some_iff hrunning).mp h
    rfl
  · rw [poll, if_neg hrunning] at h
    obtain ⟨rfl, -⟩ := Prod.mk.inj (Option.some.inj h)
    rfl

/-- A poll of a debugger that made `k` cycles, in all that it tells and leaves. -/
structure Polled (d : Debugger) (dt : Float32) (k : ℕ) (after : Debugger) (halt : Option Halt) :
    Prop where
  /-- It made so many cycles. -/
  cycles : ∃ r, d.driven dt = some r ∧ r.run.cycles = k
  /-- It left the machine that so many cycles leave. -/
  machine : after.machine = d.machine.after k
  /-- That is the machine which a command leaves that steps so many cycles. -/
  step : ∀ count : UInt32, count.toNat = k → after.machine = (d.step count).1.machine
  /-- There is such a command, unless the clock owes all cycles. -/
  count : d.clock.owed dt ≠ ⊤ → ∃ count : UInt32, count.toNat = k
  /-- It says that it landed on a breakpoint exactly if its last cycle did. -/
  watched_iff : halt = some .watched ↔ d.machine.LandsAt d.stopsAt k
  /-- It tells a fault exactly if its last cycle ended with it. -/
  faulted_iff : ∀ fault, halt = some (.faulted fault) ↔ d.machine.FaultsAt k fault
  /-- It tells nothing otherwise. -/
  none_iff : halt = none ↔ ¬d.machine.LandsAt d.stopsAt k ∧ ∀ fault, ¬d.machine.FaultsAt k fault

/-- The poll of a running debugger makes the cycles the clock owes, or fewer if the machine is
stopped before. -/
theorem polled_of_poll (hrunning : d.running = true) {dt : Float32} {after : Debugger}
    {halt : Option Halt} (hpoll : d.poll dt = some (after, halt)) :
    ∃ k : ℕ, (k : ℕ∞) = min (d.clock.owed dt) (d.machine.firstStop d.stopsAt) ∧
      d.Polled dt k after halt := by
  obtain ⟨r, hr, rfl, rfl⟩ := (poll_eq_some_iff hrunning).mp hpoll
  obtain ⟨k, hk, hrun, hends⟩ := Clock.run_of_drive hr
  refine ⟨k, hk, ?_⟩
  exact
    { cycles := ⟨r, hr, hends.cycles⟩
      machine := hends.machine
      step := by
        -- the command makes the very run that the drive turned out to be
        rintro count rfl
        exact congrArg Run.machine hrun
      count := by
        -- the counts of commands go as far as a clock that does not owe all cycles
        intro hfinite
        obtain ⟨n, hn⟩ := ENat.ne_top_iff_exists.mp hfinite
        have hle : k ≤ n := by
          rw [← Nat.cast_le (α := ℕ∞), hk, hn]
          exact min_le_left _ _
        have hlt : k < UInt32.size := hle.trans_lt (Clock.owed_lt_size hn.symm)
        exact ⟨UInt32.ofNat k, UInt32.toNat_ofNat_of_lt hlt⟩
      watched_iff := hends.watched_iff
      faulted_iff := hends.faulted_iff
      none_iff := by
        rw [← hends.watched_iff]
        simp only [← hends.faulted_iff]
        rcases r.run.halt with _ | _ | fault <;> simp }

/-- **Polling stops where stepping stops.** Let the clock owe `n` cycles. That depends on nothing
but the clock and the elapsed time, and it is what the drive of any machine makes that nothing
stops. The poll of a running debugger comes back unless `n` is infinite and nothing stops the
machine. It makes `k` cycles, where `k` is `n` or the index of the first cycle that faults or lands
on a breakpoint, whichever is less, and does in them what a command does that steps `k` cycles.
Neither of the two goes on after a landing. -/
theorem poll_stops_where_step_stops (hrunning : d.running = true) (dt : Float32) :
    (∀ (m : Machine) (watched : UInt16 → Bool), m.firstStop watched = ⊤ → ∀ n : ℕ,
      d.clock.owed dt = n ↔ ∃ r, d.clock.drive m watched dt = some r ∧ r.run.cycles = n) ∧
    (d.poll dt = none ↔ min (d.clock.owed dt) (d.machine.firstStop d.stopsAt) = ⊤) ∧
    (∀ after halt, d.poll dt = some (after, halt) →
      ∃ k : ℕ, (k : ℕ∞) = min (d.clock.owed dt) (d.machine.firstStop d.stopsAt) ∧
        d.Polled dt k after halt ∧ ∀ j, d.machine.LandsAt d.stopsAt j → k ≤ j) ∧
    ∀ j, d.machine.LandsAt d.stopsAt j → ∀ count, (d.stepped count).cycles ≤ j := by
  refine ⟨?_, ?_, ?_, fun j ↦ stepped_cycles_le⟩
  · intro m watched hnever n
    exact Clock.owed_eq_iff hnever
  · rw [poll, if_pos hrunning, Option.map_eq_none_iff]
    exact Clock.drive_eq_none_iff
  · intro after halt hpoll
    obtain ⟨k, hk, hpolled⟩ := polled_of_poll hrunning hpoll
    exact ⟨k, hk, hpolled, fun j hj ↦ Machine.le_of_landsAt hk hj⟩

/-- A running debugger whose machine jumps to where it is, with a breakpoint there. -/
def spinning : Debugger where
  machine := ((Machine.powerOn ⟨0, 0⟩).load [0x12, 0x00]).1
  clock := Clock.ofRate Clock.defaultRate
  breakpoints := [0x200]
  running := true
  program := [0x12, 0x00]

theorem step_spinning :
    ∃ outcome last, spinning.machine.step = .ok outcome last ∧ spinning.stopsAt last.pc = true :=
  ⟨_, _, Machine.step_eq_ok_iff.mpr
    ⟨0x1200, Machine.fetch_eq_ok_iff.mpr (by decide +kernel), rfl, rfl, rfl⟩, by decide +kernel⟩

/-- The jump lands on the breakpoint it started from, which stops the poll after one cycle. -/
theorem poll_stops_where_step_stops_spinning :
    ∃ after, spinning.poll 0.1 = some (after, some .watched) ∧
      spinning.Polled 0.1 1 after (some .watched) := by
  obtain ⟨outcome, last, hstep, hlands⟩ := step_spinning
  have hstop : spinning.machine.firstStop spinning.stopsAt = 1 :=
    Machine.firstStop_of_watched hstep hlands
  have howed : 1 ≤ spinning.clock.owed 0.1 := by
    rw [Clock.owed, Clock.owedFrom_of_le (by decide +kernel)]
    exact le_add_self
  -- there is room for the cycle that lands, whatever else the clock owes
  obtain ⟨-, hnone, hsome, -⟩ := poll_stops_where_step_stops (d := spinning) rfl 0.1
  rw [hstop, min_eq_right howed] at hnone hsome
  obtain ⟨⟨after, halt⟩, hpoll⟩ := Option.ne_none_iff_exists'.mp (mt hnone.mp ENat.one_ne_top)
  obtain ⟨k, hk, hpolled, -⟩ := hsome after halt hpoll
  obtain rfl : k = 1 := by exact_mod_cast hk
  obtain rfl : halt = some .watched :=
    hpolled.watched_iff.mpr (Machine.landsAt_one.mpr ⟨outcome, last, hstep, hlands⟩)
  exact ⟨after, hpoll, hpolled⟩

end Debugger

end ChipEight
