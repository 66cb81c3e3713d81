import ChipEight.Proofs.Debugger.History
import Mathlib.Tactic.IntervalCases

/-!
# When a debugger runs

A command lets a debugger run, another one pauses it, and a poll that is halted stops it. Nothing
else says whether a debugger runs: no other command, whether it succeeds or fails, no key and no
saved machine. So the last command to run decides, and what has halted the debugger since.

What halts a debugger depends on the state it is in. Hence a halt is told by its place in a history,
and the state is the one that the history before that place has led to.
-/

namespace ChipEight

namespace Debugger

open MonadFiles

variable {σ : Type} [MonadFiles (StateM σ)] {d after : Debugger} {s s' : Debugger × σ}
  {hs : List Happening}

/-! ## What halts a debugger -/

/-- What stops a debugger from running. -/
inductive Halts (d : Debugger) : Happening → Prop
  | pause : Halts d (.command .pause)
  /-- A poll that comes back with what halted it, which is a breakpoint or a fault. -/
  | poll {dt : Float32} {after : Debugger} {halt : Halt}
      (h : d.poll dt = some (after, some halt)) : Halts d (.poll dt)

theorem poll_of_not_running (h : d.running = false) (dt : Float32) :
    d.poll dt = some (d, none) := by
  rw [poll, h]
  exact if_neg Bool.false_ne_true

theorem running_of_poll {dt : Float32} {halt : Option Halt} (h : d.poll dt = some (after, halt)) :
    after.running = true ↔ d.running = true ∧ ¬d.Halts (.poll dt) := by
  have hhalts : d.Halts (.poll dt) ↔ halt.isNone = false := by
    constructor
    · intro hhalts
      cases hhalts with
      | poll hpoll =>
        obtain ⟨-, rfl⟩ := Prod.mk.inj (Option.some.inj (h.symm.trans hpoll))
        rfl
    · intro hsome
      obtain ⟨cause, rfl⟩ := Option.isSome_iff_exists.mp (Option.isNone_eq_false_iff.mp hsome)
      exact .poll h
  cases hrunning : d.running with
  | false =>
    rw [poll_of_not_running hrunning] at h
    obtain ⟨rfl, -⟩ := Prod.mk.inj (Option.some.inj h)
    simp [hrunning]
  | true =>
    obtain ⟨r, -, rfl, rfl⟩ := (poll_eq_some_iff hrunning).mp h
    simp [hhalts]

/-- A poll halts a running debugger exactly if the clock owes the cycle that stops the machine. -/
theorem halts_poll_iff {dt : Float32} :
    d.Halts (.poll dt) ↔ d.running = true ∧
      ∃ k : ℕ, d.machine.firstStop d.stopsAt = k ∧ (k : ℕ∞) ≤ d.clock.owed dt := by
  constructor
  · rintro ⟨⟩
    next after halt hpoll =>
    have hrunning : d.running = true := by
      by_contra hnot
      rw [poll_of_not_running (Bool.eq_false_iff.mpr hnot)] at hpoll
      cases hpoll
    obtain ⟨k, hk, hpolled⟩ := polled_of_poll hrunning hpoll
    have hstop : d.machine.LandsAt d.stopsAt k ∨ ∃ fault, d.machine.FaultsAt k fault := by
      by_contra hnot
      rw [not_or, not_exists] at hnot
      cases hpolled.none_iff.mpr hnot
    have hlast : d.machine.firstStop d.stopsAt = k :=
      (firstIndex_le hstop).antisymm (hk.le.trans (min_le_right _ _))
    exact ⟨hrunning, k, hlast, hk.le.trans (min_le_left _ _)⟩
  · rintro ⟨hrunning, k, hstop, howed⟩
    have hmin : min (d.clock.owed dt) (d.machine.firstStop d.stopsAt) = k := by
      rw [hstop, min_eq_right howed]
    have hdriven : d.driven dt ≠ none := by
      rw [driven, ne_eq, Clock.drive_eq_none_iff, hmin]
      exact ENat.natCast_ne_top k
    obtain ⟨r, hr⟩ := Option.ne_none_iff_exists'.mp hdriven
    have hpoll := (poll_eq_some_iff hrunning).mpr ⟨r, hr, rfl, rfl⟩
    obtain ⟨j, hj, hpolled⟩ := polled_of_poll hrunning hpoll
    obtain rfl : j = k := by exact_mod_cast hj.trans hmin
    cases hhalt : r.run.halt with
    | none =>
      obtain ⟨hlands, hfaults⟩ := hpolled.none_iff.mp hhalt
      rcases (firstIndex_eq_coe hstop).1 with hlanded | ⟨fault, hfaulted⟩
      · exact absurd hlanded hlands
      · exact absurd hfaulted (hfaults fault)
    | some halt => exact .poll (hhalt ▸ hpoll)

/-! ## Commands -/

theorem running_execute (d : Debugger) {c : Command} (hrun : c ≠ .run) (hpause : c ≠ .pause)
    (files : σ) : ((d.execute (m := StateM σ) c).run files).1.1.running = d.running := by
  cases c with
  | run => exact absurd rfl hrun
  | pause => exact absurd rfl hpause
  | breakpoint action => cases action <;> rfl
  | set target value => exact (congrArg running (d.fst_assign target value)).trans rfl
  | reset => exact (congrArg running d.fst_reset).trans rfl
  | load path => exact (congrArg running (d.fst_restored _)).trans rfl
  | _ => rfl

theorem running_execute_error {c : Command} {fault : CommandFault} {files files' : σ}
    (h : (d.execute (m := StateM σ) c).run files = ((after, .error fault), files')) :
    after.running = d.running := by
  have hrun : c ≠ .run := by
    rintro rfl
    cases h
  have hpause : c ≠ .pause := by
    rintro rfl
    cases h
  rw [← d.running_execute hrun hpause files, h]

/-! ## Histories -/

/-- A debugger runs if it has just been told to, or if it ran before and has not been halted. -/
theorem running_happen {h : Happening} (hh : happen s h = some s') :
    s'.1.running = true ↔ h = .command .run ∨ s.1.running = true ∧ ¬s.1.Halts h := by
  cases h with
  | command c =>
    obtain rfl := Option.some.inj hh
    by_cases hrun : c = .run
    · subst hrun
      exact iff_of_true rfl (.inl rfl)
    by_cases hpause : c = .pause
    · subst hpause
      exact iff_of_false Bool.false_ne_true (by simp [Halts.pause])
    · have hhalts : ¬s.1.Halts (.command c) := by
        rintro ⟨⟩
        exact hpause rfl
      rw [s.1.running_execute hrun hpause s.2]
      simp [hrun, hhalts]
  | poll dt =>
    obtain ⟨⟨after, halt⟩, hpoll, rfl⟩ := Option.map_eq_some_iff.mp hh
    rw [running_of_poll hpoll]
    simp
  | setKey key down =>
    obtain rfl := Option.some.inj hh
    have hhalts : ¬s.1.Halts (.setKey key down) := nofun
    simp [hhalts]
  | restore path =>
    obtain rfl := Option.some.inj hh
    have hhalts : ¬s.1.Halts (.restore path) := nofun
    have hrestore : (s.1.restored ((readText (m := StateM σ) path).run s.2).1).1.running
        = s.1.running := (congrArg running (s.1.fst_restored _)).trans rfl
    rw [run_restore, hrestore]
    simp [hhalts]

/-- What happens at place `i` of a history that begins with `s` halts the debugger. -/
def HaltedAt (s : Debugger × σ) (hs : List Happening) (i : ℕ) : Prop :=
  ∃ h before, hs[i]? = some h ∧ history (hs.take i) s = some before ∧ before.1.Halts h

theorem HaltedAt.lt {i : ℕ} (h : HaltedAt s hs i) : i < hs.length := by
  obtain ⟨happening, before, hi, -⟩ := h
  exact (List.getElem?_eq_some_iff.mp hi).1

theorem haltedAt_append_of_lt {i : ℕ} (hi : i < hs.length) (since : List Happening) :
    HaltedAt s (hs ++ since) i ↔ HaltedAt s hs i := by
  rw [HaltedAt, HaltedAt, List.getElem?_append_left hi, List.take_append_of_le_length hi.le]

section Concat

variable {h : Happening} {before : Debugger × σ}

theorem HaltedAt.le_of_concat {i : ℕ} (hhalted : HaltedAt s (hs ++ [h]) i) : i ≤ hs.length := by
  have hlt := hhalted.lt
  rw [List.length_append, List.length_singleton] at hlt
  exact Nat.le_of_lt_succ hlt

theorem haltedAt_concat_length (hbefore : history hs s = some before) :
    HaltedAt s (hs ++ [h]) hs.length ↔ before.1.Halts h := by
  rw [HaltedAt, List.getElem?_concat_length, List.take_left]
  simp [hbefore]

theorem not_haltedAt_concat (hbefore : history hs s = some before) {P : ℕ → Prop}
    (hP : P hs.length) :
    (∀ j, P j → ¬HaltedAt s (hs ++ [h]) j) ↔
      (∀ j, P j → ¬HaltedAt s hs j) ∧ ¬before.1.Halts h := by
  constructor
  · intro hnever
    refine ⟨fun j hj hhalted ↦ hnever j hj ?_, ?_⟩
    · exact (haltedAt_append_of_lt hhalted.lt [h]).mpr hhalted
    · exact mt (haltedAt_concat_length hbefore).mpr (hnever _ hP)
  · rintro ⟨hnever, hhalts⟩ j hj hhalted
    rcases Nat.lt_or_eq_of_le hhalted.le_of_concat with hlt | rfl
    · exact hnever j hj ((haltedAt_append_of_lt hlt [h]).mp hhalted)
    · exact hhalts ((haltedAt_concat_length hbefore).mp hhalted)

theorem exists_told_concat (hbefore : history hs s = some before) :
    (∃ i, (hs ++ [h])[i]? = some (.command .run) ∧ ∀ j, i < j → ¬HaltedAt s (hs ++ [h]) j) ↔
      h = .command .run ∨
      (∃ i, hs[i]? = some (.command .run) ∧ ∀ j, i < j → ¬HaltedAt s hs j) ∧
        ¬before.1.Halts h := by
  constructor
  · rintro ⟨i, hi, hnever⟩
    by_cases hlt : i < hs.length
    · rw [List.getElem?_append_left hlt] at hi
      obtain ⟨hnever, hhalts⟩ := (not_haltedAt_concat hbefore hlt).mp hnever
      exact .inr ⟨⟨i, hi, hnever⟩, hhalts⟩
    · rw [List.getElem?_append_right (Nat.le_of_not_lt hlt)] at hi
      exact .inl (List.mem_singleton.mp (List.mem_of_getElem? hi)).symm
  · rintro (rfl | ⟨⟨i, hi, hnever⟩, hhalts⟩)
    · exact ⟨hs.length, List.getElem?_concat_length,
        fun j hj hhalted ↦ (hhalted.le_of_concat.trans_lt hj).false⟩
    · have hlt : i < hs.length := (List.getElem?_eq_some_iff.mp hi).1
      refine ⟨i, by rw [List.getElem?_append_left hlt, hi], ?_⟩
      exact (not_haltedAt_concat hbefore hlt).mpr ⟨hnever, hhalts⟩

end Concat

/-- Whether a debugger runs after a history: it has been told to, or it ran from the beginning, and
nothing has halted it since. -/
theorem running_of_history (h : history hs s = some s') :
    s'.1.running = true ↔
      (∃ i, hs[i]? = some (.command .run) ∧ ∀ j, i < j → ¬HaltedAt s hs j) ∨
      s.1.running = true ∧ ∀ j, ¬HaltedAt s hs j := by
  -- on the history from its end, where the last happening decides or leaves it as it was before
  induction hs using List.reverseRecOn generalizing s' with
  | nil =>
    obtain rfl := Option.some.inj h
    simp [HaltedAt]
  | append_singleton hs last ih =>
    obtain ⟨before, hbefore, hlast⟩ := history_concat.mp h
    have hbegin : (∀ j, ¬HaltedAt s (hs ++ [last]) j) ↔
        (∀ j, ¬HaltedAt s hs j) ∧ ¬before.1.Halts last := by
      simpa using not_haltedAt_concat (h := last) hbefore (P := fun _ ↦ True) trivial
    rw [running_happen hlast, ih hbefore, exists_told_concat hbefore, hbegin, or_and_right,
      or_assoc, and_assoc]

/-- **When a debugger runs.** After a history a debugger runs exactly if it has been told to, or ran
from the beginning, and nothing has halted it since: no command to pause, and no poll that came back
with a breakpoint or a fault. One that was just made does not run, so it must have been told to.
Nothing else has a say, as no key does and no saved machine: no other command, and none that fails.
A poll of a debugger that does not run comes back with nothing and changes nothing, the time that
the clock has collected included. -/
theorem running_iff_told (h : history hs s = some s') :
    (s'.1.running = true ↔
      (∃ i, hs[i]? = some (.command .run) ∧ ∀ j, i < j → ¬HaltedAt s hs j) ∨
      s.1.running = true ∧ ∀ j, ¬HaltedAt s hs j) ∧
    (∀ machine clock program, ofProgram machine clock program = .ok s.1 →
      (s'.1.running = true ↔
        ∃ i, hs[i]? = some (.command .run) ∧ ∀ j, i < j → ¬HaltedAt s hs j)) ∧
    (∀ (d : Debugger) (files : σ),
      (d.execute (m := StateM σ) .run).run files = ((d.start, .ok .done), files) ∧
      (d.execute (m := StateM σ) .pause).run files = ((d.pause, .ok .done), files)) ∧
    (∀ (d : Debugger) (c : Command) (files : σ), c ≠ .run → c ≠ .pause →
      ((d.execute (m := StateM σ) c).run files).1.1.running = d.running) ∧
    (∀ (d after : Debugger) (c : Command) (fault : CommandFault) (files files' : σ),
      (d.execute (m := StateM σ) c).run files = ((after, .error fault), files') →
      after.running = d.running) ∧
    ∀ (d : Debugger) (dt : Float32), d.running = false → d.poll dt = some (d, none) := by
  refine ⟨running_of_history h, fun machine clock program hmade ↦ ?_, fun d files ↦ ⟨rfl, rfl⟩,
    fun d c files hrun hpause ↦ d.running_execute hrun hpause files,
    fun d after c fault files files' ↦ running_execute_error,
    fun d dt hrunning ↦ poll_of_not_running hrunning dt⟩
  have hrunning : s.1.running = false := by
    rw [(ofProgram_eq_ok_iff.mp hmade).2]
  rw [running_of_history h, hrunning]
  simp

/-- A debugger that spins once it runs and stops at its breakpoint, and no files. -/
def stopped : Debugger × FileTree := (spinning.pause, ⟨[]⟩)

theorem halts_spinning : spinning.Halts (.poll 0.1) := by
  obtain ⟨outcome, last, hstep, hlands⟩ := step_spinning
  refine halts_poll_iff.mpr ⟨rfl, 1, Machine.firstStop_of_watched hstep hlands, ?_⟩
  -- there is room for the cycle that lands, whatever else the clock owes
  rw [Clock.owed, Clock.owedFrom_of_le (by decide +kernel)]
  exact le_add_self

/-- The breakpoint stops the debugger. A command that fails and a poll leave it so until it is told
to run once more, and what happens after that leaves it running. -/
theorem running_iff_told_stopped :
    ∃ halted last,
      history [.command .run, .poll 0.1, .command (.set .pc 0x1000)] stopped = some halted ∧
      halted.1.running = false ∧
      history [.poll 0.1, .command .run, .command .reset, .command (.step 1), .setKey 5 true] halted
        = some last ∧
      last.1.running = true := by
  obtain ⟨after, cause, hpoll⟩ : ∃ after cause, spinning.poll 0.1 = some (after, some cause) := by
    cases halts_spinning with
    | poll hpoll => exact ⟨_, _, hpoll⟩
  let halted : Debugger × FileTree := ((after.assign .pc 0x1000).1, ⟨[]⟩)
  have hhalted : history [.command .run, .poll 0.1, .command (.set .pc 0x1000)] stopped
      = some halted := by
    have hpolled : happen (spinning, (⟨[]⟩ : FileTree)) (.poll 0.1) = some (after, ⟨[]⟩) :=
      Option.map_eq_some_iff.mpr ⟨_, hpoll, rfl⟩
    exact history_cons.mpr ⟨(spinning, ⟨[]⟩), rfl, history_cons.mpr ⟨_, hpolled, rfl⟩⟩
  have hrunning : halted.1.running = false := by
    refine Bool.eq_false_iff.mpr fun hrunning ↦ ?_
    rcases (running_iff_told hhalted).1.mp hrunning with ⟨i, hi, hnever⟩ | ⟨hstopped, -⟩
    · obtain rfl : i = 0 := by
        have hlt : i < 3 := (List.getElem?_eq_some_iff.mp hi).1
        interval_cases i
        · rfl
        · cases hi
        · cases hi
      exact hnever 1 Nat.one_pos ⟨_, (spinning, ⟨[]⟩), rfl, rfl, halts_spinning⟩
    · cases hstopped
  obtain ⟨last, hlast⟩ : ∃ last, history
      [.poll 0.1, .command .run, .command .reset, .command (.step 1), .setKey 5 true] halted
        = some last := by
    have hpolled : happen halted (.poll 0.1) = some halted :=
      Option.map_eq_some_iff.mpr ⟨_, poll_of_not_running hrunning 0.1, rfl⟩
    exact ⟨_, history_cons.mpr ⟨_, hpolled, rfl⟩⟩
  refine ⟨halted, last, hhalted, hrunning, hlast, (running_iff_told hlast).1.mpr (.inl ?_)⟩
  refine ⟨1, rfl, fun j hj hhaltedAt ↦ ?_⟩
  have hlt : j < 5 := hhaltedAt.lt
  obtain ⟨h, before, hat, -, hhalts⟩ := hhaltedAt
  -- what happens after the command to run halts no debugger
  interval_cases j <;> cases hat <;> cases hhalts

end Debugger

end ChipEight
