import ChipEight.Machine.Cycle
import ChipEight.Proofs.Machine.Transaction
import Mathlib.Data.ENat.Lattice

/-!
# Where a run stops

A run is stopped by its first cycle that faults or lands on a watched address, whatever counts its
cycles. This file says which cycle that is without mentioning a run: `Machine.firstStop` looks at
the machines that cycle after cycle leaves and gives the index of the first cycle that stops,
counted from one, or `⊤`.

`Machine.run_endsAt` then says what a counted run does: it ends at that cycle or when its cycles are
used up, whichever is first. Other loops need not be compared with a counted run cycle by cycle; it
is enough to know how many cycles they leave room for.
-/

namespace ChipEight

/-! ## First indices -/

open Classical in
/-- The least index with a property; `⊤` if there is none. -/
noncomputable def firstIndex (p : ℕ → Prop) : ℕ∞ :=
  if h : ∃ j, p j then (Nat.find h : ℕ) else ⊤

section FirstIndex

variable {p : ℕ → Prop}

theorem firstIndex_eq_top : firstIndex p = ⊤ ↔ ∀ j, ¬p j := by
  rw [firstIndex]
  split
  · next h => simpa using h
  · next h => simpa using h

theorem firstIndex_le {j : ℕ} (h : p j) : firstIndex p ≤ j := by
  classical
  rw [firstIndex, dif_pos ⟨j, h⟩, Nat.cast_le]
  exact Nat.find_min' _ h

theorem firstIndex_eq_coe {n : ℕ} (h : firstIndex p = n) : p n ∧ ∀ j < n, ¬p j := by
  classical
  rw [firstIndex] at h
  split at h
  · next hex =>
    obtain rfl := Nat.cast_inj.mp h
    exact ⟨Nat.find_spec hex, fun j hj ↦ Nat.find_min hex hj⟩
  · exact absurd h.symm (ENat.natCast_ne_top n)

theorem firstIndex_of_zero (h : p 0) : firstIndex p = 0 :=
  nonpos_iff_eq_zero.mp (firstIndex_le h)

theorem firstIndex_succ (h : ¬p 0) : firstIndex p = firstIndex (fun j ↦ p (j + 1)) + 1 := by
  classical
  by_cases hex : ∃ j, p (j + 1)
  · have hp : ∃ j, p j := hex.imp' (· + 1) fun _ ↦ id
    rw [firstIndex, dif_pos hp, firstIndex, dif_pos hex, Nat.find_comp_succ hp hex h, Nat.cast_add,
      Nat.cast_one]
  · have htop : firstIndex (fun j ↦ p (j + 1)) = ⊤ := firstIndex_eq_top.mpr (by simpa using hex)
    rw [htop, top_add, firstIndex_eq_top]
    rintro (_ | j)
    · exact h
    · exact fun hj ↦ hex ⟨j, hj⟩

end FirstIndex

namespace Machine

/-! ## The cycles of a machine -/

variable {m last : Machine} {watched : UInt16 → Bool} {outcome : Outcome} {fault : Fault}

def after (m : Machine) (count : ℕ) : Machine := (fun m ↦ left m.step)^[count] m

@[simp] theorem after_zero (m : Machine) : m.after 0 = m := rfl

theorem after_succ (m : Machine) (count : ℕ) :
    m.after (count + 1) = (left m.step).after count := rfl

theorem after_succ_left (m : Machine) (count : ℕ) :
    m.after (count + 1) = left (m.after count).step :=
  Function.iterate_succ_apply' _ count m

/-- Cycle `k`, counted from one, fails. -/
def FaultsAt (m : Machine) (k : ℕ) (fault : Fault) : Prop :=
  ∃ j, k = j + 1 ∧ ∃ last, (m.after j).step = .error fault last

/-- Cycle `k`, counted from one, succeeds and leaves the program counter at a watched address. -/
def LandsAt (m : Machine) (watched : UInt16 → Bool) (k : ℕ) : Prop :=
  ∃ j, k = j + 1 ∧ ∃ outcome last, (m.after j).step = .ok outcome last ∧ watched last.pc

/-- The first cycle that faults or lands on a watched address; `⊤` if there is none. -/
noncomputable def firstStop (m : Machine) (watched : UInt16 → Bool) : ℕ∞ :=
  firstIndex fun k ↦ m.LandsAt watched k ∨ ∃ fault, m.FaultsAt k fault

theorem not_faultsAt_zero : ¬m.FaultsAt 0 fault := by
  rintro ⟨j, hj, -⟩
  exact absurd hj.symm j.succ_ne_zero

theorem not_landsAt_zero : ¬m.LandsAt watched 0 := by
  rintro ⟨j, hj, -⟩
  exact absurd hj.symm j.succ_ne_zero

theorem faultsAt_one : m.FaultsAt 1 fault ↔ ∃ last, m.step = .error fault last := by
  simp [FaultsAt]

theorem landsAt_one :
    m.LandsAt watched 1 ↔ ∃ outcome last, m.step = .ok outcome last ∧ watched last.pc := by
  simp [LandsAt]

theorem faultsAt_succ (h : m.step = .ok outcome last) (k : ℕ) :
    m.FaultsAt (k + 1) fault ↔ last.FaultsAt k fault := by
  cases k with
  | zero => simp [faultsAt_one, h, not_faultsAt_zero]
  | succ j => simp [FaultsAt, after_succ, h, left]

theorem landsAt_succ (h : m.step = .ok outcome last) (hw : watched last.pc = false) (k : ℕ) :
    m.LandsAt watched (k + 1) ↔ last.LandsAt watched k := by
  cases k with
  | zero =>
    rw [landsAt_one]
    simp [h, hw, not_landsAt_zero]
  | succ j => simp [LandsAt, after_succ, h, left]

theorem firstStop_eq (m : Machine) (watched : UInt16 → Bool) :
    m.firstStop watched
      = firstIndex (fun j ↦ m.LandsAt watched (j + 1) ∨ ∃ fault, m.FaultsAt (j + 1) fault) + 1 :=
  firstIndex_succ (by simp [not_landsAt_zero, not_faultsAt_zero])

theorem firstStop_of_error (h : m.step = .error fault last) : m.firstStop watched = 1 := by
  rw [firstStop_eq, firstIndex_of_zero, zero_add]
  exact .inr ⟨fault, faultsAt_one.mpr ⟨last, h⟩⟩

theorem firstStop_of_watched (h : m.step = .ok outcome last) (hw : watched last.pc = true) :
    m.firstStop watched = 1 := by
  rw [firstStop_eq, firstIndex_of_zero, zero_add]
  exact .inl (landsAt_one.mpr ⟨outcome, last, h, hw⟩)

theorem firstStop_of_ok (h : m.step = .ok outcome last) (hw : watched last.pc = false) :
    m.firstStop watched = last.firstStop watched + 1 := by
  rw [firstStop_eq]
  -- from its second cycle on the machine stops where the one it left does
  simp only [landsAt_succ h hw, faultsAt_succ h]
  rfl

/-! ## Machines that never fail -/

def NeverFails (m : Machine) : Prop := ∀ k fault, ¬m.FaultsAt k fault

theorem NeverFails.firstStop_eq_top (h : m.NeverFails) : m.firstStop (fun _ ↦ false) = ⊤ := by
  rw [firstStop, firstIndex_eq_top]
  rintro k (⟨j, -, outcome, last, -, hwatched⟩ | ⟨fault, hfault⟩)
  · exact Bool.false_ne_true hwatched
  · exact h k fault hfault

theorem NeverFails.after (h : m.NeverFails) (count : ℕ) : (m.after count).NeverFails := by
  rintro k fault ⟨j, -, last, hstep⟩
  refine h (j + count + 1) fault ⟨j + count, rfl, last, ?_⟩
  rw [Machine.after, Function.iterate_add_apply]
  exact hstep

/-! ## Counted runs -/

/-- A run of a machine that ends with cycle `k`, in all that it tells. -/
structure EndsAt (m : Machine) (watched : UInt16 → Bool) (k : ℕ) (r : Run) : Prop where
  /-- It made so many cycles. -/
  cycles : r.cycles = k
  /-- It left the machine that so many cycles leave. -/
  machine : r.machine = m.after k
  /-- It says that it landed exactly if its last cycle did. -/
  watched_iff : r.halt = some .watched ↔ m.LandsAt watched k
  /-- It tells a fault exactly if its last cycle ended with it. -/
  faulted_iff : ∀ fault, r.halt = some (.faulted fault) ↔ m.FaultsAt k fault

theorem EndsAt.zero (m : Machine) (watched : UInt16 → Bool) : m.EndsAt watched 0 ⟨m, 0, none⟩ where
  cycles := rfl
  machine := rfl
  watched_iff := by simp [not_landsAt_zero]
  faulted_iff fault := by simp [not_faultsAt_zero]

theorem EndsAt.of_error (h : m.step = .error fault last) :
    m.EndsAt watched 1 ⟨last, 1, some (.faulted fault)⟩ where
  cycles := rfl
  machine := by simp [after_succ, h, left]
  watched_iff := by simp [landsAt_one, h]
  faulted_iff other := by simp [faultsAt_one, h]

theorem EndsAt.of_watched (h : m.step = .ok outcome last) (hw : watched last.pc = true) :
    m.EndsAt watched 1 ⟨last, 1, some .watched⟩ where
  cycles := rfl
  machine := by simp [after_succ, h, left]
  watched_iff := by simp [landsAt_one, h, hw]
  faulted_iff other := by simp [faultsAt_one, h]

/-- After a cycle that neither fails nor lands, a run ends where the run of the machine ends that it
left. -/
theorem EndsAt.succ (h : m.step = .ok outcome last) (hw : watched last.pc = false) {k : ℕ}
    {r : Run} (hr : last.EndsAt watched k r) :
    m.EndsAt watched (k + 1) { r with cycles := 1 + r.cycles } where
  cycles := by rw [hr.cycles, Nat.add_comm]
  machine := by rw [after_succ, h]; exact hr.machine
  watched_iff := by rw [landsAt_succ h hw]; exact hr.watched_iff
  faulted_iff fault := by rw [faultsAt_succ h]; exact hr.faulted_iff fault

/-- Where a run begins to count makes no difference but to its count. -/
theorem runFrom_eq (watched : UInt16 → Bool) (count done : ℕ) (m : Machine) :
    runFrom watched done count m
      = { m.run watched count with cycles := done + (m.run watched count).cycles } := by
  induction count generalizing done m with
  | zero => rfl
  | succ count ih =>
    rw [run, runFrom, runFrom]
    cases m.step with
    | error fault last => simp
    | ok outcome last =>
      cases hw : watched last.pc with
      | true => simp [hw]
      | false =>
        simp only [hw, Bool.false_eq_true, if_false]
        rw [ih (done + 1), ih (0 + 1)]
        simp [Nat.add_assoc]

/-- **What stops a counted run.** A run of at most `count` cycles ends with the first cycle that
stops it, or with cycle `count` if that comes first. -/
theorem run_endsAt (watched : UInt16 → Bool) (count : ℕ) (m : Machine) :
    ∃ k : ℕ, (k : ℕ∞) = min (count : ℕ∞) (m.firstStop watched) ∧
      m.EndsAt watched k (m.run watched count) := by
  induction count generalizing m with
  | zero => exact ⟨0, by simp, EndsAt.zero m watched⟩
  | succ count ih =>
    have hone : (1 : ℕ∞) ≤ (count + 1 : ℕ) := by exact_mod_cast Nat.le_add_left 1 count
    rw [run, runFrom]
    cases hs : m.step with
    | error fault last =>
      refine ⟨1, ?_, EndsAt.of_error hs⟩
      rw [firstStop_of_error hs, min_eq_right hone, Nat.cast_one]
    | ok outcome last =>
      cases hw : watched last.pc with
      | true =>
        refine ⟨1, ?_, ?_⟩
        · rw [firstStop_of_watched hs hw, min_eq_right hone, Nat.cast_one]
        · simp only [hw, if_true]
          exact EndsAt.of_watched hs hw
      | false =>
        obtain ⟨k, hk, hr⟩ := ih last
        refine ⟨k + 1, ?_, ?_⟩
        · rw [firstStop_of_ok hs hw, Nat.cast_add, hk, Nat.cast_add, Nat.cast_one,
            min_add_add_right]
        · -- what is left of the run has made a cycle already
          simp only [hw, Bool.false_eq_true, if_false]
          rw [runFrom_eq, Nat.zero_add]
          exact hr.succ hs hw

theorem le_of_landsAt {n : ℕ∞} {k j : ℕ} (hk : (k : ℕ∞) = min n (m.firstStop watched))
    (h : m.LandsAt watched j) : k ≤ j := by
  have hstop : m.firstStop watched ≤ j := firstIndex_le (.inl h)
  rw [← Nat.cast_le (α := ℕ∞), hk]
  exact (min_le_right _ _).trans hstop

/-- What a run did that a fault ended: its cycles succeeded, without landing on a watched address,
up to one that failed and left the machine as it was. -/
theorem exists_of_run_faulted {count : ℕ}
    (h : (m.run watched count).halt = some (.faulted fault)) :
    ∃ j < count,
      (∀ i < j, ∃ outcome, (m.after i).step = .ok outcome (m.after (i + 1)) ∧
        watched (m.after (i + 1)).pc = false) ∧
      (m.after j).step = .error fault (m.after j) ∧ (m.run watched count).machine = m.after j := by
  obtain ⟨k, hk, hends⟩ := m.run_endsAt watched count
  obtain ⟨j, rfl, last, hfails⟩ := (hends.faulted_iff fault).mp h
  obtain ⟨rfl, -⟩ := step_eq_error_iff.mp hfails
  have hcount : j + 1 ≤ count := by
    rw [← Nat.cast_le (α := ℕ∞), hk]
    exact min_le_left _ _
  refine ⟨j, hcount, fun i hi ↦ ?_, hfails, ?_⟩
  · -- the run was not stopped by an earlier cycle
    have hgoesOn : ¬(m.LandsAt watched (i + 1) ∨ ∃ fault, m.FaultsAt (i + 1) fault) := by
      intro hstop
      have hle : ((j + 1 : ℕ) : ℕ∞) ≤ (i + 1 : ℕ) :=
        hk.le.trans ((min_le_right _ _).trans (firstIndex_le hstop))
      rw [Nat.cast_le] at hle
      omega
    rw [after_succ_left]
    cases hstep : (m.after i).step with
    | error other last => exact absurd (.inr ⟨other, i, rfl, last, hstep⟩) hgoesOn
    | ok outcome last =>
      refine ⟨outcome, rfl, Bool.eq_false_iff.mpr fun hlands ↦ hgoesOn (.inl ?_)⟩
      exact ⟨i, rfl, outcome, last, hstep, hlands⟩
  · rw [hends.machine, after_succ_left, hfails, left]

/-- There is only one run that ends with a given cycle. -/
theorem EndsAt.eq {k : ℕ} {r s : Run} (hr : m.EndsAt watched k r) (hs : m.EndsAt watched k s) :
    r = s := by
  obtain ⟨machine, cycles, halt⟩ := r
  obtain ⟨machine', cycles', halt'⟩ := s
  obtain rfl : cycles = cycles' := hr.cycles.trans hs.cycles.symm
  obtain rfl : machine = machine' := hr.machine.trans hs.machine.symm
  have hwatched := hr.watched_iff.trans hs.watched_iff.symm
  have hfaulted := fun fault ↦ (hr.faulted_iff fault).trans (hs.faulted_iff fault).symm
  congr 1
  -- whichever way one of them ended, the other one says the same
  rcases halt with _ | _ | fault
  · rcases halt' with _ | _ | fault
    · rfl
    · simp at hwatched
    · simpa using hfaulted fault
  · exact (hwatched.mp rfl).symm
  · exact ((hfaulted fault).mp rfl).symm

end Machine

end ChipEight
