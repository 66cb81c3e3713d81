import ChipEight.Proofs.Debugger.Disassembly
import ChipEight.Proofs.Debugger.Running
import Mathlib.Data.List.Sort
import Mathlib.Order.Defs.LinearOrder

/-!
# Where a debugger stops

Three commands have a say in whether there is a breakpoint at an address: the one that sets it, the
one that clears it, and the one that clears all of them. The last of these in a history decides; if
there is none, the address is what it was in the beginning. So it is enough to know of one happening
what it does to one address, which is `mem_breakpoints_happen`.

The breakpoints are kept in the order in which they are listed. They are a set all the same:
whatever order its addresses are taken in, sorting them gives the list.
-/

namespace ChipEight

namespace Breakpoints

variable {a address : UInt16} {bs : Breakpoints}

/-- In ascending order, and therefore each address once. -/
def Ascending (bs : Breakpoints) : Prop := bs.Pairwise (· < ·)

theorem Ascending.insert (h : bs.Ascending) (address : UInt16) :
    (insert address bs).Ascending := by
  induction bs with
  | nil => exact List.pairwise_singleton _ _
  | cons b bs ih =>
    obtain ⟨hfirst, hrest⟩ := List.pairwise_cons.mp h
    rw [Breakpoints.insert]
    split
    · next hlt =>
      refine List.pairwise_cons.mpr ⟨fun a ha ↦ ?_, h⟩
      rcases List.mem_cons.mp ha with rfl | ha
      · exact hlt
      · exact UInt16.lt_trans hlt (hfirst a ha)
    · next hnot =>
      split
      · exact h
      · next hne =>
        have hlt : b < address :=
          UInt16.lt_of_le_of_ne (UInt16.not_lt.mp hnot) (Ne.symm hne)
        refine List.pairwise_cons.mpr ⟨fun a ha ↦ ?_, ih hrest⟩
        rcases mem_insert.mp ha with rfl | ha
        · exact hlt
        · exact hfirst a ha

theorem Ascending.erase (h : bs.Ascending) (address : UInt16) : (erase address bs).Ascending :=
  h.filter _

/-- In whatever order the addresses of a set are taken, sorting them gives its ascending list. -/
theorem Ascending.mergeSort_eq (h : bs.Ascending) {order : List UInt16} (hnodup : order.Nodup)
    (hmem : ∀ a, a ∈ order ↔ a ∈ bs) : order.mergeSort (· ≤ ·) = bs := by
  have hperm : (order.mergeSort (· ≤ ·)).Perm bs :=
    (List.mergeSort_perm _ _).trans
      ((List.perm_ext_iff_of_nodup hnodup (h.imp UInt16.ne_of_lt)).mpr hmem)
  have hdecided : (order.mergeSort (· ≤ ·)).Pairwise fun a b ↦ decide (a ≤ b) := by
    refine List.pairwise_mergeSort ?_ ?_ order
    · intro a b c hab hbc
      exact decide_eq_true (UInt16.le_trans (of_decide_eq_true hab) (of_decide_eq_true hbc))
    · intro a b
      simpa using UInt16.le_total a b
  have hsorted : (order.mergeSort (· ≤ ·)).Pairwise (· ≤ ·) := hdecided.imp of_decide_eq_true
  exact hperm.eq_of_pairwise (fun _ _ _ _ ↦ UInt16.le_antisymm) hsorted
    (h.imp UInt16.le_of_lt)

end Breakpoints

/-! ## Who decides -/

/-- Whether an action has a say in whether there is a breakpoint at an address. -/
def BreakpointAction.decides (a : UInt16) : BreakpointAction → Bool
  | .set address | .clear address => address == a
  | .clearAll => true
  | .list => false

/-- Whether a happening is one of the three commands that have a say in whether there is a
breakpoint at an address. -/
def Happening.decides (a : UInt16) : Happening → Bool
  | .command (.breakpoint action) => action.decides a
  | _ => false

abbrev Happening.setAt (a : UInt16) : Happening := .command (.breakpoint (.set a))

theorem Happening.decides_eq_false {h : Happening} {a : UInt16}
    (hh : ∀ action, h ≠ .command (.breakpoint action)) : h.decides a = false := by
  unfold Happening.decides
  split
  · next action => exact absurd rfl (hh action)
  · rfl

/-- The last command of a history that has a say in whether there is a breakpoint at an address. -/
def lastDecision? (a : UInt16) (hs : List Happening) : Option Happening :=
  (hs.filter (·.decides a)).getLast?

section LastDecision

variable {a : UInt16} {hs : List Happening} {h : Happening}

theorem lastDecision?_concat_of_decides (hdecides : h.decides a = true) :
    lastDecision? a (hs ++ [h]) = some h := by
  rw [lastDecision?, List.filter_append, List.filter_singleton, hdecides]
  exact List.getLast?_concat

theorem lastDecision?_concat_of_not_decides (hdecides : h.decides a = false) :
    lastDecision? a (hs ++ [h]) = lastDecision? a hs := by
  rw [lastDecision?, List.filter_append, List.filter_singleton, hdecides]
  exact congrArg List.getLast? (List.append_nil _)

end LastDecision

namespace Debugger

open MonadFiles

variable {σ : Type} [MonadFiles (StateM σ)] {d after : Debugger} {s s' : Debugger × σ}
  {hs : List Happening} {h : Happening} {a : UInt16}

/-! ## One happening -/

theorem breakpoints_execute (d : Debugger) {c : Command} (hc : ∀ action, c ≠ .breakpoint action)
    (files : σ) :
    ((d.execute (m := StateM σ) c).run files).1.1.breakpoints = d.breakpoints := by
  cases c with
  | breakpoint action => exact absurd rfl (hc action)
  | set target value => exact (congrArg breakpoints (d.fst_assign target value)).trans rfl
  | reset => exact (congrArg breakpoints d.fst_reset).trans rfl
  | load path => exact (congrArg breakpoints (d.fst_restored _)).trans rfl
  | _ => rfl

theorem breakpoints_happen (hh : happen s h = some s') :
    (∃ action, h = .command (.breakpoint action) ∧ s'.1 = (s.1.onBreakpoints action).1) ∨
      (∀ action, h ≠ .command (.breakpoint action)) ∧ s'.1.breakpoints = s.1.breakpoints := by
  cases h with
  | command c =>
    obtain rfl := Option.some.inj hh
    by_cases hc : ∃ action, c = .breakpoint action
    · obtain ⟨action, rfl⟩ := hc
      exact .inl ⟨action, rfl, rfl⟩
    · rw [not_exists] at hc
      exact .inr ⟨fun action heq ↦ hc action (Happening.command.inj heq),
        s.1.breakpoints_execute hc s.2⟩
  | poll dt =>
    obtain ⟨⟨after, halt⟩, hpoll, rfl⟩ := Option.map_eq_some_iff.mp hh
    exact .inr ⟨nofun, breakpoints_of_poll hpoll⟩
  | setKey key down =>
    obtain rfl := Option.some.inj hh
    exact .inr ⟨nofun, rfl⟩
  | restore path =>
    obtain rfl := Option.some.inj hh
    exact .inr ⟨nofun, (congrArg breakpoints (s.1.fst_restored _)).trans rfl⟩

theorem mem_breakpoints_onBreakpoints (d : Debugger) (action : BreakpointAction) :
    a ∈ (d.onBreakpoints action).1.breakpoints ↔
      action = .set a ∨ a ∈ d.breakpoints ∧ action.decides a = false := by
  cases action with
  | set address =>
    simp only [onBreakpoints, Breakpoints.mem_insert, BreakpointAction.decides,
      BreakpointAction.set.injEq, beq_eq_false_iff_ne]
    by_cases heq : address = a
    · simp [heq]
    · simp [heq, Ne.symm heq]
  | clear address =>
    simp only [onBreakpoints, Breakpoints.mem_erase, BreakpointAction.decides, reduceCtorEq,
      false_or, beq_eq_false_iff_ne]
    rw [and_comm, ne_comm]
  | clearAll => simp [onBreakpoints, BreakpointAction.decides]
  | list => simp [onBreakpoints, BreakpointAction.decides]

/-- An action without a say in any address only lists. -/
theorem onBreakpoints_of_not_decides {action : BreakpointAction}
    (h : ∀ a, action.decides a = false) : (d.onBreakpoints action).1 = d := by
  cases action with
  | set address => exact absurd BEq.rfl (Bool.eq_false_iff.mp (h address))
  | clear address => exact absurd BEq.rfl (Bool.eq_false_iff.mp (h address))
  | clearAll => exact absurd rfl (Bool.eq_false_iff.mp (h 0))
  | list => rfl

/-- After one happening there is a breakpoint at an address if it has just been set, or if it was
there before and the happening has no say in it. -/
theorem mem_breakpoints_happen (hh : happen s h = some s') :
    a ∈ s'.1.breakpoints ↔ h = .setAt a ∨ a ∈ s.1.breakpoints ∧ h.decides a = false := by
  rcases breakpoints_happen hh with ⟨action, rfl, hafter⟩ | ⟨hnone, hafter⟩
  · rw [hafter, mem_breakpoints_onBreakpoints]
    simp only [Happening.command.injEq, Command.breakpoint.injEq]
    exact Iff.rfl
  · rw [hafter, Happening.decides_eq_false hnone]
    simp [hnone]

theorem ascending_happen (hh : happen s h = some s') (hs : s.1.breakpoints.Ascending) :
    s'.1.breakpoints.Ascending := by
  rcases breakpoints_happen hh with ⟨action, -, hafter⟩ | ⟨-, hafter⟩
  · rw [hafter]
    cases action with
    | set address => exact hs.insert address
    | clear address => exact hs.erase address
    | clearAll => exact List.Pairwise.nil
    | list => exact hs
  · rw [hafter]
    exact hs

/-! ## Histories -/

theorem mem_breakpoints_of_history (h : history hs s = some s') :
    a ∈ s'.1.breakpoints ↔
      lastDecision? a hs = some (.setAt a) ∨ lastDecision? a hs = none ∧ a ∈ s.1.breakpoints := by
  -- on the history from its end, where the last happening decides or leaves it as it was before
  induction hs using List.reverseRecOn generalizing s' with
  | nil =>
    obtain rfl := Option.some.inj h
    simp [lastDecision?]
  | append_singleton hs last ih =>
    obtain ⟨before, hbefore, hlast⟩ := history_concat.mp h
    rw [mem_breakpoints_happen hlast]
    by_cases hdecides : last.decides a = true
    · rw [lastDecision?_concat_of_decides hdecides]
      simp [hdecides]
    · rw [Bool.not_eq_true] at hdecides
      have hne : last ≠ .setAt a := by
        rintro rfl
        exact absurd (BEq.rfl (a := a)) (Bool.eq_false_iff.mp hdecides)
      rw [lastDecision?_concat_of_not_decides hdecides, ← ih hbefore]
      simp [hdecides, hne]

theorem ascending_of_history (h : history hs s = some s') (hasc : s.1.breakpoints.Ascending) :
    s'.1.breakpoints.Ascending := by
  induction hs generalizing s with
  | nil =>
    obtain rfl := Option.some.inj h
    exact hasc
  | cons first hs ih =>
    obtain ⟨next, hnext, hrest⟩ := history_cons.mp h
    exact ih hrest (ascending_happen hnext hasc)

theorem answers_list (d : Debugger) (files : σ) :
    d.Answers files (.breakpoint .list) (.ok (.breakpoints d.breakpoints)) :=
  rfl

/-- **The last command decides where a debugger stops.** After a history the breakpoints are listed
in ascending order and each once, which is what sorting makes of them in whatever order they are
taken. An address is among them exactly if the last command with a say in it has set it, or if there
is no such command and it was among them in the beginning. For a debugger that had just been made
there were none, so there it takes a command that has set it.

Nothing but setting, clearing and clearing all has a say: no other command, whether it succeeds or
fails, no key, no saved machine, and no poll, whatever it came back with. -/
theorem listed_iff_set_last (h : history hs s = some s') :
    (s.1.breakpoints.Ascending → ∃ listed : List UInt16,
      s'.1.Answers s'.2 (.breakpoint .list) (.ok (.breakpoints listed)) ∧
      listed.Pairwise (· < ·) ∧
      (∀ order : List UInt16, order.Nodup → (∀ a, a ∈ order ↔ a ∈ listed) →
        order.mergeSort (· ≤ ·) = listed) ∧
      ∀ a, a ∈ listed ↔ lastDecision? a hs = some (.setAt a) ∨
        lastDecision? a hs = none ∧ a ∈ s.1.breakpoints) ∧
    (∀ machine clock program, ofProgram machine clock program = .ok s.1 →
      ∃ listed : List UInt16,
        s'.1.Answers s'.2 (.breakpoint .list) (.ok (.breakpoints listed)) ∧
        listed.Pairwise (· < ·) ∧ ∀ a, a ∈ listed ↔ lastDecision? a hs = some (.setAt a)) ∧
    (∀ (t t' : Debugger × σ) (happening : Happening), happen t happening = some t' →
      (∀ a, happening.decides a = false) → t'.1.breakpoints = t.1.breakpoints) ∧
    ∀ (d after : Debugger) (c : Command) (fault : CommandFault) (files files' : σ),
      (d.execute (m := StateM σ) c).run files = ((after, .error fault), files') →
      after.breakpoints = d.breakpoints := by
  refine ⟨fun hasc ↦ ?_, fun machine clock program hmade ↦ ?_, ?_, ?_⟩
  · have hlisted := ascending_of_history h hasc
    exact ⟨_, answers_list _ _, hlisted, fun order ↦ hlisted.mergeSort_eq,
      fun a ↦ mem_breakpoints_of_history h⟩
  · have hnone : s.1.breakpoints = [] := by
      rw [(ofProgram_eq_ok_iff.mp hmade).2]
    have hasc : s.1.breakpoints.Ascending := hnone ▸ List.Pairwise.nil
    refine ⟨_, answers_list _ _, ascending_of_history h hasc, fun a ↦ ?_⟩
    rw [mem_breakpoints_of_history h, hnone]
    simp
  · intro t t' happening hh hnone
    rcases breakpoints_happen hh with ⟨action, rfl, hafter⟩ | ⟨-, hafter⟩
    · rw [hafter, onBreakpoints_of_not_decides hnone]
    · exact hafter
  · intro d after c fault files files' hfails
    have hc : ∀ action, c ≠ .breakpoint action := by
      rintro action rfl
      cases hfails
    rw [← d.breakpoints_execute hc files, hfails]

/-- What happens to a debugger that stops at its breakpoint: more breakpoints are set, one of them
twice, and one is cleared; then the program is loaded again and a command fails. -/
def afterStopping : List Happening :=
  [.poll 0.1, .setAt 0x300, .setAt 0x250, .command (.breakpoint (.clear 0x300)), .setAt 0x250,
    .command .reset, .command (.set .pc 0x1000)]

/-- The breakpoint at which the debugger stops is still there in the end, and so is the one that was
set twice. -/
theorem listed_iff_set_last_spinning :
    ∃ last listed, history afterStopping (spinning, FileTree.empty) = some last ∧
      last.1.Answers last.2 (.breakpoint .list) (.ok (.breakpoints listed)) ∧
      0x200 ∈ listed ∧ 0x250 ∈ listed ∧ 0x300 ∉ listed := by
  obtain ⟨stopped, cause, hpoll⟩ :
      ∃ stopped cause, spinning.poll 0.1 = some (stopped, some cause) := by
    cases halts_spinning with
    | poll hpoll => exact ⟨_, _, hpoll⟩
  have hpolled : happen (spinning, FileTree.empty) (.poll 0.1) = some (stopped, FileTree.empty) :=
    Option.map_eq_some_iff.mpr ⟨_, hpoll, rfl⟩
  obtain ⟨last, hlast⟩ : ∃ last, history afterStopping (spinning, FileTree.empty) = some last :=
    ⟨_, history_cons.mpr ⟨_, hpolled, rfl⟩⟩
  have hasc : spinning.breakpoints.Ascending := List.pairwise_singleton _ _
  obtain ⟨listed, hanswers, -, -, hmem⟩ := (listed_iff_set_last hlast).1 hasc
  refine ⟨last, listed, hlast, hanswers, ?_, ?_, ?_⟩
  · exact (hmem 0x200).mpr (.inr ⟨rfl, List.mem_singleton_self _⟩)
  · exact (hmem 0x250).mpr (.inl rfl)
  · intro hlisted
    rcases (hmem 0x300).mp hlisted with hset | ⟨hnone, -⟩
    · cases hset
    · cases hnone

end Debugger

end ChipEight
