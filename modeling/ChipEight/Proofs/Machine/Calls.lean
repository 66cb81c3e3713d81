import ChipEight.Proofs.Machine.Operation
import Mathlib.Order.Nat
import Mathlib.Tactic.ByContra

/-!
# Calls and returns

A call remembers the place it was made from, and a return goes on behind the place remembered last.
No other instruction touches the pending calls. So whatever runs between a call and the return from
it, calls and returns nest: the first moment at which no more calls are pending than before is a
return, it finds exactly the calls that were pending before, and it goes on behind the call.

The call that was made, on top of those that were pending, stays at the far end of the list until
that moment. This is what an operation preserves unless it is the return, and it says nothing about
the code: a program may rewrite itself on the way.
-/

namespace ChipEight

namespace Machine

variable {m last : Machine} {outcome : Outcome}

/-! ## One cycle -/

/-- The pending calls after an instruction. -/
def callsAfter (m : Machine) : Instruction → List UInt16
  | .ret => m.calls.tail
  | .call _ => m.pc :: m.calls
  | _ => m.calls

theorem calls_commit (m : Machine) (i : Instruction) : (m.commit i).1.calls = m.callsAfter i := by
  have hcalls := (m.commit_frame i).calls
  cases i with
  | ret => rfl
  | call nnn => rfl
  | _ => exact hcalls nofun nofun

theorem exists_current_of_step (h : m.step = .ok outcome last) :
    ∃ i, m.current? = some i ∧ m.pc.toNat + 2 ≤ memorySize ∧ m.refusal? i = none ∧
      last = (m.commit i).1.tickTimers := by
  obtain ⟨word, hfetch, hrefusal, -, rfl⟩ := step_eq_ok_iff.mp h
  exact ⟨Instruction.decode word, current?_of_fetch_ok hfetch, (fetch_eq_ok_iff.mp hfetch).1,
    hrefusal, rfl⟩

/-- What a cycle can do to the pending calls: return from the innermost one, add one, as long as
there is room for it, or leave them alone. -/
theorem calls_of_step (h : m.step = .ok outcome last) :
    (m.current? = some .ret ∧ ∃ caller, m.calls = caller :: last.calls ∧ last.pc = caller + 2) ∨
      (m.calls.length < stackDepth ∧ last.calls = m.pc :: m.calls) ∨
      last.calls = m.calls := by
  obtain ⟨i, hcurrent, -, hrefusal, rfl⟩ := exists_current_of_step h
  have hcalls : (m.commit i).1.tickTimers.calls = m.callsAfter i := m.calls_commit i
  rw [hcalls]
  cases i with
  | ret =>
    cases hpending : m.calls with
    | nil => simp [refusal?, hpending] at hrefusal
    | cons caller outer =>
      refine .inl ⟨hcurrent, caller, ?_, ?_⟩
      · rw [callsAfter, hpending, List.tail_cons]
      · rw [tickTimers, commit, hpending, List.headD_cons]
  | call nnn =>
    refine .inr (.inl ⟨?_, rfl⟩)
    by_contra hfull
    simp [refusal?, Nat.le_of_not_lt hfull] at hrefusal
  | _ => exact .inr (.inr rfl)

theorem calls_of_call {nnn : UInt16} (hcall : m.current? = some (.call nnn))
    (h : m.step = .ok outcome last) :
    last.calls = m.pc :: m.calls ∧ m.pc.toNat + 2 ≤ memorySize := by
  obtain ⟨i, hcurrent, hpc, -, rfl⟩ := exists_current_of_step h
  obtain rfl := Option.some.inj (hcall.symm.trans hcurrent)
  exact ⟨rfl, hpc⟩

theorem depth_step (h : m.calls.length ≤ stackDepth) :
    (left m.step).calls.length ≤ stackDepth := by
  cases hstep : m.step with
  | error fault last =>
    obtain ⟨rfl, -⟩ := step_eq_error_iff.mp hstep
    exact h
  | ok outcome last =>
    rcases calls_of_step hstep with ⟨-, caller, hcalls, -⟩ | ⟨hroom, hcalls⟩ | hcalls
    · rw [hcalls, List.length_cons] at h
      exact Nat.le_of_succ_le h
    · rw [left, hcalls, List.length_cons]
      exact hroom
    · rw [left, hcalls]
      exact h

/-! ## Nesting -/

variable {ops : List Operation} {op : Operation}

/-- What an operation does to a call that is pending under the later ones. It leaves it there,
unless it is the return from this very call. -/
theorem pending_or_return {caller : UInt16} {outer : List UInt16}
    (hpending : caller :: outer <:+ m.calls) (hgoesOn : op.goesOn = true)
    (hok : (m.apply op).1.toBool = true) :
    caller :: outer <:+ (m.apply op).2.calls ∨
      (op = .step ∧ m.current? = some .ret ∧ (m.apply op).2.calls = outer ∧
        (m.apply op).2.pc = caller + 2) := by
  cases op with
  | step =>
    obtain ⟨outcome, hstep⟩ := exists_step_of_toBool hok
    rcases calls_of_step hstep with ⟨hret, top, hcalls, hpc⟩ | ⟨-, hcalls⟩ | hcalls
    · rw [hcalls] at hpending
      rcases List.suffix_cons_iff.mp hpending with hsame | hbelow
      · -- nothing is on top of it, so it is the one that is returned from
        obtain ⟨rfl, rfl⟩ := List.cons.inj hsame
        exact .inr ⟨rfl, hret, rfl, hpc⟩
      · exact .inl hbelow
    · refine .inl ?_
      rw [hcalls]
      exact hpending.trans (List.suffix_cons m.pc m.calls)
    · exact .inl (hcalls ▸ hpending)
  | tickTimers => exact .inl hpending
  | setKey key down => exact .inl hpending
  | reset => cases hgoesOn
  | load program => cases hgoesOn
  | restore s => cases hgoesOn

variable {nnn : UInt16}

theorem calls_moment_one (hcall : m.current? = some (.call nnn)) (hfirst : ops[0]? = some .step)
    (hrun : m.RunsThrough ops) :
    (m.moment ops 1).calls = m.pc :: m.calls ∧ m.pc.toNat + 2 ≤ memorySize := by
  obtain ⟨-, hok⟩ := hrun.getElem? hfirst
  rw [moment_zero] at hok
  obtain ⟨outcome, hstep⟩ := exists_step_of_toBool hok
  rw [moment_succ m hfirst, moment_zero]
  exact calls_of_call hcall hstep

/-- As long as the number of pending calls has not come back to what it was before a call, that call
is among them, under the later ones and on top of the earlier ones. -/
theorem call_stays_pending (hcall : m.current? = some (.call nnn)) (hfirst : ops[0]? = some .step)
    (hrun : m.RunsThrough ops) {j : ℕ} (hj : j < ops.length)
    (hmore : ∀ i ≤ j + 1, 0 < i → (m.moment ops i).calls.length ≠ m.calls.length) :
    m.pc :: m.calls <:+ (m.moment ops (j + 1)).calls := by
  induction j with
  | zero =>
    have hcalls : (m.moment ops 1).calls = m.pc :: m.calls :=
      (calls_moment_one hcall hfirst hrun).1
    exact hcalls ▸ List.suffix_rfl
  | succ j ih =>
    have hop : ops[j + 1]? = some ops[j + 1] := List.getElem?_eq_getElem hj
    obtain ⟨hgoesOn, hok⟩ := hrun.getElem? hop
    have hpending := ih (Nat.lt_of_succ_lt hj) fun i hi ↦ hmore i (Nat.le_succ_of_le hi)
    rw [moment_succ m hop]
    rcases pending_or_return hpending hgoesOn hok with hstays | ⟨-, -, hcalls, -⟩
    · exact hstays
    · exact absurd (by rw [moment_succ m hop, hcalls]) (hmore (j + 2) le_rfl (Nat.succ_pos _))

/-- The address behind a call is no sum that wraps around. -/
theorem toNat_add_two {a : UInt16} (h : a.toNat + 2 ≤ memorySize) :
    (a + 2).toNat = a.toNat + 2 :=
  toNat_next (Nat.le_trans (Nat.le_of_add_right_le h) (by decide))

/-- **Calls and returns nest.** Let the first cycle of a run make a call, and let `k` be the first
later moment at which as many calls are pending as before it. The operation that leads there is a
cycle that returns, the pending calls are those from before the call, and the program counter is
behind the place of the call. -/
theorem return_of_call (hcall : m.current? = some (.call nnn)) (hfirst : ops[0]? = some .step)
    (hrun : m.RunsThrough ops) {k : ℕ} (hpos : 0 < k) (hk : k ≤ ops.length)
    (hdepth : (m.moment ops k).calls.length = m.calls.length)
    (hleast : ∀ j < k, 0 < j → (m.moment ops j).calls.length ≠ m.calls.length) :
    ops[k - 1]? = some .step ∧ (m.moment ops (k - 1)).current? = some .ret ∧
      (m.moment ops k).calls = m.calls ∧ (m.moment ops k).pc.toNat = m.pc.toNat + 2 := by
  obtain ⟨hcalls, hpc⟩ := calls_moment_one hcall hfirst hrun
  obtain ⟨j, rfl⟩ : ∃ j, k = j + 1 := ⟨k - 1, by omega⟩
  rw [Nat.add_sub_cancel]
  rcases Nat.eq_zero_or_pos j with rfl | hj
  · -- the call itself leaves one more call pending
    rw [hcalls, List.length_cons] at hdepth
    exact absurd hdepth (Nat.succ_ne_self _)
  · obtain ⟨i, rfl⟩ : ∃ i, j = i + 1 := ⟨j - 1, by omega⟩
    have hop : ops[i + 1]? = some ops[i + 1] := List.getElem?_eq_getElem hk
    obtain ⟨hgoesOn, hok⟩ := hrun.getElem? hop
    have hpending : m.pc :: m.calls <:+ (m.moment ops (i + 1)).calls :=
      call_stays_pending hcall hfirst hrun (by omega) fun n hn ↦ hleast n (by omega)
    rw [moment_succ m hop] at hdepth ⊢
    rcases pending_or_return hpending hgoesOn hok with hstays | ⟨hreturn, hret, houter, hbehind⟩
    · have hlength := hstays.length_le
      rw [hdepth, List.length_cons] at hlength
      exact absurd hlength (Nat.not_succ_le_self _)
    · exact ⟨hreturn ▸ hop, hret, houter, by rw [hbehind, toNat_add_two hpc]⟩

/-- A machine about to call a subroutine that calls another one. -/
def nestingCalls : Machine :=
  { powerOn ⟨0, 0⟩ with
    memory := Memory.zero.write 0 [0x20, 0x06, 0x10, 0x02, 0x00, 0xEE, 0x20, 0x04, 0x00, 0xEE]
    pc := 0 }

/-- Two calls and two returns, with a key pressed and the timers ticked in between, and a jump. -/
def nestingRun : List Operation :=
  [.step, .setKey (.ofNat 3) true, .step, .tickTimers, .step, .step, .step]

/-- The second return is the one from the first call. -/
theorem return_of_call_nestingCalls :
    (nestingCalls.moment nestingRun 5).current? = some .ret ∧
      (nestingCalls.moment nestingRun 6).calls = [] ∧
      (nestingCalls.moment nestingRun 6).pc.toNat = 2 := by
  have hcall : nestingCalls.current? = some (.call 6) := by decide +kernel
  have hrun : nestingCalls.RunsThrough nestingRun := by decide +kernel
  obtain ⟨-, hret, hcalls, hpc⟩ := return_of_call (k := 6) hcall rfl hrun (by decide) (by decide)
    (by decide +kernel) (by decide +kernel)
  exact ⟨hret, hcalls, hpc⟩

end Machine

end ChipEight
