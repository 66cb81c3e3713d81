import ChipEight.Proofs.Machine.Transaction
import ChipEight.Snapshot
import Mathlib.Data.Nat.Notation

/-!
# Operations on a machine

A machine is driven from outside: cycles are asked for, timers ticked, keys pressed, programs and
snapshots loaded. `Operation` lists all that can be asked of it, and `Machine.apply` what each of
them answers and leaves. No operation is withheld from a machine on account of its state; one that
fails has an answer too, and the next one finds the machine as the failed one left it.

`Machine.transcript` is what can be seen from outside while operations are done one after the other:
the answer of each and the snapshot after it. The random source is in none of them.

A machine that is left to its program makes cycles; meanwhile its timers may be ticked and its keys
pressed and released, but nobody resets it or replaces its state. Such a run is a list of operations
none of which fails. The moments of a run are the machines before and after its operations, counted
from the machine it starts with.
-/

namespace ChipEight

/-- What a machine can be asked to do. -/
inductive Operation where
  | step
  | tickTimers
  | setKey (key : Nibble) (down : Bool)
  | reset
  | load (program : List UInt8)
  | restore (s : Snapshot)
  deriving DecidableEq

/-- What an operation answers: the fault it failed with, or that it succeeded and, if it was a
cycle, the outcome. -/
abbrev Answer := Except Fault (Option Outcome)

/-- Whether an operation lets a machine go on: it makes a cycle, ticks the timers or changes a key,
and neither resets nor replaces the machine. -/
def Operation.goesOn : Operation → Bool
  | .step | .tickTimers | .setKey .. => true
  | .reset | .load _ | .restore _ => false

namespace Machine

/-- The answer of an operation and the machine it leaves. -/
def apply (m : Machine) : Operation → Answer × Machine
  | .step =>
    match m.step with
    | .ok outcome after => (.ok (some outcome), after)
    | .error fault after => (.error fault, after)
  | .tickTimers => (.ok none, m.tickTimers)
  | .setKey key down => (.ok none, m.setKey key down)
  | .reset => (.ok none, m.reset)
  | .load program => ((m.load program).2.map fun _ ↦ none, (m.load program).1)
  | .restore s =>
    match m.restore s with
    | .ok _ after => (.ok none, after)
    | .error fault after => (.error fault, after)

/-- What is seen of an operation. -/
def observe (m : Machine) (op : Operation) : Answer × Snapshot :=
  ((m.apply op).1, (m.apply op).2.snapshot)

/-- What is seen of operations that are done one after the other. -/
def transcript : List Operation → Machine → List (Answer × Snapshot)
  | [], _ => []
  | op :: ops, m => m.observe op :: transcript ops (m.apply op).2

/-- The machine after operations that are done one after the other. -/
def applyAll : List Operation → Machine → Machine
  | [], m => m
  | op :: ops, m => applyAll ops (m.apply op).2

variable {m : Machine}

theorem apply_step_of_fetch_error {fault : Fault} (h : m.fetch = .error fault) :
    m.apply .step = (.error fault, m) := by
  rw [apply, step_of_fetch_error h]

theorem apply_step_of_refusal {word : UInt16} {fault : Fault} (h : m.fetch = .ok word)
    (hr : m.refusal? (Instruction.decode word) = some fault) :
    m.apply .step = (.error fault, m) := by
  rw [apply, step_of_fetch_ok h, settle_of_some hr]

theorem apply_step_of_commit {word : UInt16} (h : m.fetch = .ok word)
    (hr : m.refusal? (Instruction.decode word) = none) :
    m.apply .step = (.ok (some (m.commit (Instruction.decode word)).2),
      (m.commit (Instruction.decode word)).1.tickTimers) := by
  rw [apply, step_of_fetch_ok h, settle_of_none hr]

theorem transcript_take (ops : List Operation) (m : Machine) (count : ℕ) :
    (m.transcript ops).take count = m.transcript (ops.take count) := by
  induction ops generalizing m count with
  | nil => simp [transcript]
  | cons op ops ih =>
    cases count with
    | zero => rfl
    | succ count =>
      rw [List.take_succ_cons, transcript, transcript, List.take_succ_cons, ih]

/-! ## Moments of a run -/

/-- The machine after the first `count` operations. -/
def moment (m : Machine) (ops : List Operation) (count : ℕ) : Machine := m.applyAll (ops.take count)

/-- All operations let the machine go on, and none of them fails. -/
def RunsThrough : List Operation → Machine → Prop
  | [], _ => True
  | op :: ops, m =>
    op.goesOn = true ∧ (m.apply op).1.toBool = true ∧ RunsThrough ops (m.apply op).2

instance decidableRunsThrough : (ops : List Operation) → (m : Machine) →
    Decidable (m.RunsThrough ops)
  | [], _ => .isTrue trivial
  | op :: ops, m =>
    have := decidableRunsThrough ops (m.apply op).2
    inferInstanceAs (Decidable
      (op.goesOn = true ∧ (m.apply op).1.toBool = true ∧ RunsThrough ops (m.apply op).2))

variable {ops : List Operation} {op : Operation}

theorem moment_zero (m : Machine) (ops : List Operation) : m.moment ops 0 = m := rfl

theorem applyAll_append (before rest : List Operation) (m : Machine) :
    m.applyAll (before ++ rest) = (m.applyAll before).applyAll rest := by
  induction before generalizing m with
  | nil => rfl
  | cons op before ih => exact ih (m.apply op).2

theorem moment_succ (m : Machine) {j : ℕ} (hop : ops[j]? = some op) :
    m.moment ops (j + 1) = ((m.moment ops j).apply op).2 := by
  rw [moment, List.take_add_one, hop]
  exact applyAll_append (ops.take j) [op] m

/-- The moments after a moment of a run are those of the rest of the run. -/
theorem moment_moment (m : Machine) (ops : List Operation) (j i : ℕ) :
    (m.moment ops j).moment (ops.drop j) i = m.moment ops (j + i) := by
  rw [moment, moment, moment, List.take_add, applyAll_append]

theorem applyAll_moment (m : Machine) (ops : List Operation) (j : ℕ) :
    (m.moment ops j).applyAll (ops.drop j) = m.applyAll ops := by
  rw [moment, ← applyAll_append, List.take_append_drop]

theorem RunsThrough.getElem? (h : m.RunsThrough ops) {j : ℕ} (hop : ops[j]? = some op) :
    op.goesOn = true ∧ ((m.moment ops j).apply op).1.toBool = true := by
  induction ops generalizing m j with
  | nil => cases hop
  | cons first ops ih =>
    obtain ⟨hgoesOn, hok, hrest⟩ := h
    cases j with
    | zero =>
      obtain rfl := Option.some.inj hop
      exact ⟨hgoesOn, hok⟩
    | succ j => exact ih hrest hop

theorem exists_step_of_toBool (h : (m.apply .step).1.toBool = true) :
    ∃ outcome, m.step = .ok outcome (m.apply .step).2 := by
  rw [apply] at h ⊢
  cases hstep : m.step with
  | error fault last => simp [hstep, Except.toBool] at h
  | ok outcome last => exact ⟨outcome, rfl⟩

end Machine

end ChipEight
