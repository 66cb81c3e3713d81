import ChipEight.Console
import ChipEight.Files.Tree
import ChipEight.Proofs.Debugger.Commands
import ChipEight.Proofs.Keypad.Timeout
import ChipEight.Proofs.Machine.Loading
import ChipEight.Proofs.Snapshot.RoundTrip

/-!
# Which keys stay pressed

A terminal does not report that a key is released, so the console releases a key when it has not
been reported for some time. Two sides keep count of the keys: the machine, which knows what is
pressed, and the keyboard, which knows what was reported and when. Only what the keyboard knows of
can be released.

Everything that happens to the keys is one of four changes, and a session lists them as they come.
The keys after a session are those after its changes (`Console.Session.keys_eq`), so what is left
is a question about a list of changes. A key is pressed behind the back of the keyboard exactly if a
saved machine was restored in which it was pressed, at a moment when the keyboard did not know of
it, and nothing has settled the key since: no report of it, no reset and no other saved machine.
-/

namespace ChipEight

/-!
## The keypad under debugger commands

The keys of a machine are pressed and released from outside. No instruction does it, so no number of
cycles does, however they are asked for. Of the commands of a debugger two write the keypad: `reset`
releases all keys, and `load` takes over the keys of the saved machine.
-/

namespace Machine

variable {m : Machine}

theorem keypad_step (m : Machine) : (left m.step).keypad = m.keypad := by
  cases hs : m.step with
  | error fault after =>
    obtain ⟨rfl, -⟩ := step_eq_error_iff.mp hs
    rfl
  | ok outcome after =>
    obtain ⟨word, -, -, -, rfl⟩ := step_eq_ok_iff.mp hs
    exact (m.commit_frame _).keypad

theorem keypad_after (m : Machine) (count : ℕ) : (m.after count).keypad = m.keypad := by
  induction count with
  | zero => rfl
  | succ count ih => rw [after_succ_left, keypad_step, ih]

theorem keypad_load (m : Machine) (program : List UInt8) :
    (m.load program).1.keypad = .replicate 16 false := by
  obtain ⟨memory, hload⟩ := m.exists_load program
  rw [hload, powerOn]

end Machine

namespace Debugger

variable {d : Debugger}

theorem keypad_poll {dt : Float32} {after : Debugger} {halt : Option Halt}
    (h : d.poll dt = some (after, halt)) : after.machine.keypad = d.machine.keypad := by
  obtain ⟨k, hmachine, -⟩ := exists_after_of_poll h
  rw [hmachine, Machine.keypad_after]

theorem keypad_step (d : Debugger) (count : UInt32) :
    (d.step count).1.machine.keypad = d.machine.keypad := by
  obtain ⟨k, hmachine⟩ := d.exists_after_step count
  rw [hmachine, Machine.keypad_after]

theorem keypad_onBreakpoints (d : Debugger) (action : BreakpointAction) :
    (d.onBreakpoints action).1.machine.keypad = d.machine.keypad := by
  cases action <;> rfl

theorem keypad_assign (d : Debugger) (target : Target) (value : UInt16) :
    (d.assign target value).1.machine.keypad = d.machine.keypad := by
  rcases d.assign_cases target value with ⟨machine, hassign, hafter⟩ | hafter
  · rw [hafter, Machine.assign?_frame hassign]
  · rw [hafter]

theorem keypad_reset (d : Debugger) : d.reset.1.machine.keypad = .replicate 16 false := by
  rw [fst_reset, Machine.keypad_load]

theorem keypad_of_restored_error {text : Except FileFault String} {fault : CommandFault}
    (h : (d.restored text).2 = .error fault) :
    (d.restored text).1.machine.keypad = d.machine.keypad := by
  rcases d.restored_cases text with ⟨machine, -, -, hrestored⟩ | ⟨cause, hrestored⟩
  · rw [hrestored] at h
    cases h
  · rw [hrestored]

end Debugger

/-- What happens to the keys. -/
inductive KeyChange where
  /-- A key of the machine was reported at a time. -/
  | reported (key : Nibble) (now : Nat)
  /-- The keys were released that had not been reported for too long. -/
  | expired (now : Nat)
  /-- The machine was reset. -/
  | cleared
  /-- A saved machine was restored, with these keys pressed. -/
  | restored (pressed : Vector Bool 16)

/-- Whether a change presses or releases a key whatever the keyboard knows. -/
def KeyChange.Settles (k : Nibble) : KeyChange → Prop
  | .reported key _ => key = k
  | .expired _ => False
  | .cleared => True
  | .restored _ => True

/-- The keys on both sides: as the machine has them and as the keyboard knows them. -/
structure Keys where
  pressed : Vector Bool 16
  held : HeldKeys

namespace Keys

def apply (keys : Keys) : KeyChange → Keys
  | .reported key now =>
    ⟨keys.pressed.set key.val true key.lt,
      { keys.held with lastSeen := keys.held.lastSeen.set key.val (some now) key.lt }⟩
  | .expired now =>
    ⟨Vector.ofFn fun k ↦ !keys.held.isExpired now k && keys.pressed.get k,
      { keys.held with
        lastSeen := Vector.ofFn fun k ↦
          if keys.held.isExpired now k then none else keys.held.lastSeen.get k }⟩
  | .cleared => ⟨.replicate 16 false, keys.held⟩
  | .restored pressed => ⟨pressed, keys.held⟩

/-- The keys after some changes, none being pressed before. -/
def after (changes : List KeyChange) : Keys :=
  changes.foldl apply ⟨.replicate 16 false, .empty HeldKeys.defaultReleaseAfter⟩

end Keys

/-- What an executed command does to the keys. -/
def Execution.keyChange? (e : Execution) : Option KeyChange :=
  match e.command, e.answer with
  | .reset, _ => some .cleared
  | .load _, .ok _ => some (.restored e.after.machine.keypad)
  | _, _ => none

namespace Console

/-- The keys of a console. -/
def keys (c : Console) : Keys := ⟨c.debugger.machine.keypad, c.held⟩

/-- What a report of a key does to the keys, where `e?` is the command it submits. While the machine
runs, the report is one of a key of the machine, unless it interrupts. -/
def keyChanges (c : Console) (now : Nat) (r : KeyReport) (e? : Option Execution) :
    List KeyChange :=
  match e? with
  | some e => e.keyChange?.toList
  | none =>
    if r.isInterrupt = false ∧ c.debugger.running = true then
      ((Keypad.ofKey? r.key).map (.reported · now)).toList
    else []

section Sessions

variable {σ : Type} [MonadFiles (StateM σ)]

/-- A session: the files and the console it has come to, and what has happened to the keys. It is
opened with a program and maybe a saved machine. Then reports of keys, which type and submit
commands, elapsed time and releases follow in any order. -/
inductive Session (l : Launch) (machine : Machine) (program : List UInt8) (files : σ) :
    σ → Console → List KeyChange → Prop
  | opened {files' : σ} {c : Console}
      (h : (start (m := StateM σ) l machine program).run files = (.ok c, files')) :
      Session l machine program files files' c
        (l.saved.elim [] fun _ ↦ [.restored c.debugger.machine.keypad])
  | onKey {files₁ files₂ : σ} {c c' : Console} {changes : List KeyChange} {e? : Option Execution}
      (now : Nat) (r : KeyReport) (h : Session l machine program files files₁ c changes)
      (hkey : (c.onKey (m := StateM σ) now r).run files₁ = ((c', e?), files₂)) :
      Session l machine program files files₂ c' (changes ++ c.keyChanges now r e?)
  | tick {files₁ : σ} {c c' : Console} {changes : List KeyChange} (dt : Float32)
      (h : Session l machine program files files₁ c changes) (htick : c.tick dt = some c') :
      Session l machine program files files₁ c' changes
  | release {files₁ : σ} {c : Console} {changes : List KeyChange} (now : Nat)
      (h : Session l machine program files files₁ c changes) :
      Session l machine program files files₁ (c.releaseExpired now) (changes ++ [.expired now])

/-! ## What a happening does to the keys -/

variable {c c' : Console} {files files' : σ}

theorem keys_of_perform {d : Debugger} {command : Command} {e : Execution} (held : HeldKeys)
    (h : (d.perform (m := StateM σ) command).run files = (e, files')) :
    (⟨e.after.machine.keypad, held⟩ : Keys)
      = e.keyChange?.toList.foldl Keys.apply ⟨d.machine.keypad, held⟩ := by
  obtain ⟨rfl, -⟩ := Prod.mk.inj h
  cases command with
  | step count => exact congrArg (Keys.mk · held) (d.keypad_step count)
  | breakpoint action => exact congrArg (Keys.mk · held) (d.keypad_onBreakpoints action)
  | set target value => exact congrArg (Keys.mk · held) (d.keypad_assign target value)
  | reset => exact congrArg (Keys.mk · held) d.keypad_reset
  | load path =>
    -- whatever the file holds
    have hload (text : Except FileFault String) :
        (⟨(d.restored text).1.machine.keypad, held⟩ : Keys)
          = (Execution.keyChange? ⟨d, .load path, (d.restored text).1,
              (d.restored text).2.map fun () ↦ .done⟩).toList.foldl Keys.apply
                ⟨d.machine.keypad, held⟩ := by
      cases hverdict : (d.restored text).2 with
      | error fault =>
        rw [Debugger.keypad_of_restored_error hverdict]
        rfl
      | ok => rfl
    exact hload _
  | _ => rfl

theorem keys_shown (c : Console) (e : Execution) :
    (c.shown e).keys = ⟨e.after.machine.keypad, c.held⟩ := by
  rw [shown]
  split <;> rfl

theorem keys_edit (c : Console) (key : Key) : (c.edit key).keys = c.keys := by
  cases key <;> rfl

theorem keys_whileRunning (c : Console) (now : Nat) (key : Key) :
    (c.whileRunning now key).keys
      = ((Keypad.ofKey? key).map (.reported · now)).toList.foldl Keys.apply c.keys := by
  rw [whileRunning]
  split
  · next hkey =>
    rw [hkey]
    rfl
  · rw [HeldKeys.press, HeldKeys.press?]
    cases Keypad.ofKey? key <;> rfl

theorem keys_submit {e? : Option Execution}
    (h : (c.submit (m := StateM σ)).run files = ((c', e?), files')) :
    c'.keys = (e?.elim [] fun e ↦ e.keyChange?.toList).foldl Keys.apply c.keys := by
  rw [submit] at h
  cases hasked : c.asked (String.ofList c.line) with
  | error fault =>
    rw [hasked] at h
    obtain ⟨⟨rfl, rfl⟩, -⟩ := Prod.mk.inj h
    rfl
  | ok command? =>
    cases command? with
    | none =>
      rw [hasked] at h
      obtain ⟨⟨rfl, rfl⟩, -⟩ := Prod.mk.inj h
      rfl
    | some command =>
      rw [hasked] at h
      obtain ⟨⟨rfl, rfl⟩, -⟩ := Prod.mk.inj h
      rw [keys_shown]
      exact keys_of_perform c.held rfl

theorem keys_onKey {now : Nat} {r : KeyReport} {e? : Option Execution}
    (h : (c.onKey (m := StateM σ) now r).run files = ((c', e?), files')) :
    c'.keys = (c.keyChanges now r e?).foldl Keys.apply c.keys := by
  rw [onKey] at h
  split at h
  · next hinterrupt =>
    obtain ⟨⟨rfl, rfl⟩, -⟩ := Prod.mk.inj h
    simp [keyChanges, hinterrupt, keys]
  · next hinterrupt =>
    split at h
    · next hrunning =>
      obtain ⟨⟨rfl, rfl⟩, -⟩ := Prod.mk.inj h
      rw [keyChanges, if_pos ⟨Bool.eq_false_iff.mpr hinterrupt, hrunning⟩]
      exact c.keys_whileRunning now r.key
    · next hpaused =>
      have hnone : c.keyChanges now r none = [] := if_neg fun h ↦ hpaused h.2
      split at h
      · obtain ⟨⟨rfl, rfl⟩, -⟩ := Prod.mk.inj h
        rw [hnone]
        rfl
      · split at h
        · cases e? with
          | none =>
            rw [hnone]
            exact keys_submit h
          | some e => exact keys_submit h
        · obtain ⟨⟨rfl, rfl⟩, -⟩ := Prod.mk.inj h
          rw [hnone]
          exact c.keys_edit r.key

theorem keys_tick {dt : Float32} (h : c.tick dt = some c') : c'.keys = c.keys := by
  rw [tick] at h
  obtain ⟨⟨after, halt⟩, hpoll, rfl⟩ := Option.map_eq_some_iff.mp h
  exact congrArg (Keys.mk · c.held) (Debugger.keypad_poll hpoll)

theorem keys_releaseExpired (c : Console) (now : Nat) :
    (c.releaseExpired now).keys = c.keys.apply (.expired now) := rfl

theorem keypad_of_debuggerOf {l : Launch} {machine : Machine} {program : List UInt8}
    {d : Debugger} (h : debuggerOf l machine program = .ok d) :
    d.machine.keypad = .replicate 16 false := by
  have hload := machine.keypad_load program
  rw [debuggerOf, Debugger.ofProgram] at h
  rcases hm : machine.load program with ⟨loaded, fault | _⟩
  · simp [hm] at h
  · simp only [hm, Except.ok.injEq] at h hload
    rw [← h]
    exact hload

theorem keys_start {l : Launch} {machine : Machine} {program : List UInt8}
    (h : (start (m := StateM σ) l machine program).run files = (.ok c, files')) :
    c.keys = Keys.after (l.saved.elim [] fun _ ↦ [.restored c.debugger.machine.keypad]) := by
  rw [start] at h
  cases hd : debuggerOf l machine program with
  | error fault =>
    rw [hd] at h
    cases (Prod.mk.inj h).1
  | ok d =>
    rw [hd] at h
    cases hsaved : l.saved with
    | none =>
      rw [hsaved] at h
      obtain ⟨hc, -⟩ := Prod.mk.inj h
      obtain rfl := Except.ok.inj hc
      rw [keys, Option.elim_none]
      exact congrArg (Keys.mk · _) (keypad_of_debuggerOf hd)
    | some path =>
      -- whatever is pressed then, the keyboard does not know of it
      rw [hsaved, StateT.run_bind] at h
      rcases hr : (restoreSaved (m := StateM σ) d (some path)).run files with ⟨fault | d', files₁⟩
      · rw [hr] at h
        cases (Prod.mk.inj h).1
      · rw [hr] at h
        obtain ⟨hc, -⟩ := Prod.mk.inj h
        obtain rfl := Except.ok.inj hc
        rfl

variable {l : Launch} {machine : Machine} {program : List UInt8} {changes : List KeyChange}

/-- **The keys after a session are those after its changes.** -/
theorem Session.keys_eq (h : Session l machine program files files' c changes) :
    c.keys = Keys.after changes := by
  induction h with
  | opened h => exact keys_start h
  | onKey now r _ hkey ih =>
    rw [keys_onKey hkey, ih, Keys.after, Keys.after, List.foldl_append]
  | tick dt _ htick ih => rw [keys_tick htick, ih]
  | release now _ ih =>
    rw [keys_releaseExpired, ih, Keys.after, Keys.after, List.foldl_append]
    rfl

end Sessions

end Console

/-! ## What a list of changes leaves -/

namespace Keys

variable {changes : List KeyChange} {keys : Keys} {k : Nibble} {now : Nat}

/-- A key that is pressed without the keyboard knowing of it. -/
def IsStray (keys : Keys) (k : Nibble) : Prop :=
  keys.pressed.get k = true ∧ keys.held.lastSeen.get k = none

theorem isStray_reported {key : Nibble} :
    (keys.apply (.reported key now)).IsStray k ↔ key ≠ k ∧ keys.IsStray k := by
  simp only [IsStray, apply, Keypad.get_set]
  by_cases h : key = k <;> simp [h]

/-- Time brings no key to light that the keyboard does not know of. -/
theorem isStray_expired : (keys.apply (.expired now)).IsStray k ↔ keys.IsStray k := by
  simp only [IsStray, apply, Vector.get_ofFn]
  cases hseen : keys.held.lastSeen.get k with
  | none => simp [HeldKeys.isExpired, hseen]
  | some seen => cases h : keys.held.isExpired now k <;> simp

theorem not_isStray_cleared : ¬(keys.apply .cleared).IsStray k := by
  simp [IsStray, apply]

theorem isStray_restored {pressed : Vector Bool 16} :
    (keys.apply (.restored pressed)).IsStray k ↔
      pressed.get k = true ∧ keys.held.lastSeen.get k = none := Iff.rfl

theorem after_append (changes : List KeyChange) (change : KeyChange) :
    after (changes ++ [change]) = (after changes).apply change :=
  List.foldl_append

theorem releaseAfter_apply (keys : Keys) (change : KeyChange) :
    (keys.apply change).held.releaseAfter = keys.held.releaseAfter := by
  cases change <;> simp only [apply]

theorem releaseAfter_after (changes : List KeyChange) :
    (after changes).held.releaseAfter = HeldKeys.defaultReleaseAfter := by
  induction changes using List.reverseRecOn with
  | nil => rfl
  | append_singleton changes change ih =>
    rw [after_append, releaseAfter_apply, ih]

theorem reported_of_lastSeen {seen : Nat}
    (h : (after changes).held.lastSeen.get k = some seen) : .reported k seen ∈ changes := by
  induction changes using List.reverseRecOn with
  | nil => simp [after, HeldKeys.empty] at h
  | append_singleton changes change ih =>
    rw [after_append] at h
    cases change with
    | reported key now =>
      simp only [apply, Keypad.get_set] at h
      split at h
      · next hkey =>
        obtain rfl := Option.some.inj h
        simp [hkey]
      · exact List.mem_append_left _ (ih h)
    | expired now =>
      simp only [apply, Vector.get_ofFn] at h
      split at h
      · cases h
      · exact List.mem_append_left _ (ih h)
    | cleared => exact List.mem_append_left _ (ih h)
    | restored pressed => exact List.mem_append_left _ (ih h)

/-- A key that was pressed in a saved machine when that was restored, while the keyboard did not
know of the key, and that nothing has settled since. -/
def LeftBehind (changes : List KeyChange) (k : Nibble) : Prop :=
  ∃ before pressed since, changes = before ++ .restored pressed :: since ∧
    pressed.get k = true ∧ (after before).held.lastSeen.get k = none ∧
    ∀ change ∈ since, ¬change.Settles k

theorem leftBehind_append {change : KeyChange} :
    LeftBehind (changes ++ [change]) k ↔
      (∃ pressed, change = .restored pressed ∧ pressed.get k = true ∧
        (after changes).held.lastSeen.get k = none) ∨
      (¬change.Settles k ∧ LeftBehind changes k) := by
  have hlast := exists_last_concat (l := changes) (c := change) (f := KeyChange.restored)
    (P := fun before pressed ↦ pressed.get k = true ∧ (after before).held.lastSeen.get k = none)
    (Q := fun _ other ↦ ¬other.Settles k)
  simp only [LeftBehind, ← and_assoc, exists_and_right] at hlast ⊢
  rw [hlast, and_comm (a := ¬change.Settles k)]

/-- **Keys are pressed behind the back of the keyboard by saved machines only.** -/
theorem isStray_after_iff : (after changes).IsStray k ↔ LeftBehind changes k := by
  induction changes using List.reverseRecOn with
  | nil => simp [IsStray, LeftBehind, after]
  | append_singleton changes change ih =>
    rw [after_append, leftBehind_append, ← ih]
    cases change with
    | reported key now => simp [isStray_reported, KeyChange.Settles]
    | expired now => simp [isStray_expired, KeyChange.Settles]
    | cleared => simp [not_isStray_cleared, KeyChange.Settles]
    | restored pressed => simp [isStray_restored, KeyChange.Settles]

/-- Once the keyboard releases all it knows of, what is still pressed is what it does not know
of. -/
theorem pressed_expired_iff (hlate : ∀ seen, keys.held.lastSeen.get k = some seen →
      seen + keys.held.releaseAfter < now) :
    (keys.apply (.expired now)).pressed.get k = true ↔ keys.IsStray k := by
  simp only [IsStray, apply, Vector.get_ofFn, HeldKeys.isExpired]
  cases hseen : keys.held.lastSeen.get k with
  | none => simp
  | some seen =>
    have hexpired : keys.held.releaseAfter < now - seen := by
      have := hlate seen hseen
      omega
    simp [hexpired]

end Keys

namespace Console

variable {σ : Type} [MonadFiles (StateM σ)] {l : Launch} {machine : Machine}
  {program : List UInt8} {files files' : σ} {c : Console} {changes : List KeyChange} {now : Nat}

/-- The keys that are pressed without the keyboard knowing of them are the ones left behind. -/
theorem Session.isStray_iff (h : Session l machine program files files' c changes) (k : Nibble) :
    c.keys.IsStray k ↔ Keys.LeftBehind changes k := by
  rw [h.keys_eq, Keys.isStray_after_iff]

/-- **Which keys stay pressed.** In every session, the keys that are pressed without the keyboard
knowing of them are those that were pressed in a saved machine when it was restored, at the start or
by a command, that the keyboard did not know of then, and that were not reported since, the machine
having been neither reset nor restored again. Let the keys that have not been reported for too long
be released so late that this goes for every report so far. Then the same keys are pressed and no
others. -/
theorem Session.pressed_iff_leftBehind
    (h : Session l machine program files files' c changes) (k : Nibble) :
    (c.debugger.machine.isPressed k = true ∧ c.held.lastSeen.get k = none ↔
      Keys.LeftBehind changes k) ∧
    ∀ now, (∀ key seen, .reported key seen ∈ changes →
        seen + HeldKeys.defaultReleaseAfter < now) →
      ((c.releaseExpired now).debugger.machine.isPressed k = true ↔
        Keys.LeftBehind changes k) := by
  refine ⟨h.isStray_iff k, fun now hlate ↦ ?_⟩
  have hreleased : (c.releaseExpired now).debugger.machine.isPressed k
      = ((Keys.after changes).apply (.expired now)).pressed.get k := by
    rw [← h.keys_eq]
    rfl
  rw [hreleased, ← Keys.isStray_after_iff, Keys.pressed_expired_iff]
  intro seen hseen
  rw [Keys.releaseAfter_after]
  exact hlate k seen (Keys.reported_of_lastSeen hseen)

/-! ## A key that stays pressed -/

/-- A machine that was saved while a key was held. -/
def heldMachine : Machine := (Machine.powerOn ⟨0, 0⟩).setKey (.ofNat 5) true

/-- The file that it was saved to. -/
def heldFiles : FileTree :=
  ⟨[(["saved", "work"], .file heldMachine.snapshot.toJson.toUTF8)]⟩

/-- A launch that restores it and runs. -/
def heldLaunch : Launch where
  program := "program"
  rate := Clock.defaultRate
  seed := some 0
  saved := some "saved"
  run := true
  logFile := none
  logFilter := "warn"

theorem calls_heldMachine : heldMachine.calls = [] := by
  rw [heldMachine, Machine.setKey, Machine.powerOn]

theorem debuggerOf_heldLaunch (machine : Machine) :
    ∃ d, debuggerOf heldLaunch machine [] = .ok d ∧ d.running = true := by
  have hfits : ([] : List UInt8).length ≤ maxProgramSize := by decide
  simp only [debuggerOf, Debugger.ofProgram, Machine.load, hfits, if_true]
  exact ⟨_, rfl, rfl⟩

theorem start_heldLaunch (machine : Machine) :
    ∃ c, (start (m := StateM FileTree) heldLaunch machine []).run heldFiles = (.ok c, heldFiles) ∧
      c.debugger.machine.keypad = heldMachine.keypad ∧ c.debugger.running = true := by
  obtain ⟨d, hd, hrunning⟩ := debuggerOf_heldLaunch machine
  have hdepth : heldMachine.calls.length ≤ stackDepth := by
    rw [calls_heldMachine]
    exact Nat.zero_le _
  obtain ⟨after, hafter, hkeypad⟩ : ∃ after : Machine,
      d.restored (.ok heldMachine.snapshot.toJson) = ({ d with machine := after }, .ok ()) ∧
        after.keypad = heldMachine.keypad := ⟨_, d.restored_toJson hdepth, rfl⟩
  have hheld : MonadFiles.Holds heldFiles "saved" heldMachine.snapshot.toJson.toUTF8 := rfl
  have hrestore : (d.restore (m := StateM FileTree) "saved").run heldFiles
      = (({ d with machine := after }, .ok ()), heldFiles) := by
    rw [Debugger.run_restore, MonadFiles.readText_of_holds hheld, hafter]
    rfl
  refine ⟨ofDebugger { d with machine := after }, ?_, hkeypad, hrunning⟩
  rw [start, hd]
  dsimp only
  rw [StateT.run_bind, show heldLaunch.saved = some "saved" from rfl, restoreSaved,
    StateT.run_bind, hrestore]
  rfl

theorem get_keypad_heldMachine : heldMachine.keypad.get (Nibble.ofNat 5) = true := by
  rw [heldMachine, Machine.setKey, Keypad.get_set, if_pos rfl]

/-- **A restored key stays pressed.** Nothing is ever reported, and however late the keys are
released that have not been reported for too long, this one is not among them. -/
theorem restored_key_stays_pressed :
    ∃ c, Session heldLaunch (Machine.powerOn ⟨0, 0⟩) [] heldFiles heldFiles c
        [.restored heldMachine.keypad] ∧
      ∀ now, (c.releaseExpired now).debugger.machine.isPressed (.ofNat 5) = true := by
  obtain ⟨c, hstart, hkeypad, -⟩ := start_heldLaunch (Machine.powerOn ⟨0, 0⟩)
  have hkeys : c.keys = Keys.after [.restored c.debugger.machine.keypad] := keys_start hstart
  refine ⟨c, hkeypad ▸ .opened hstart, fun now ↦ ?_⟩
  have hstray : c.keys.IsStray (.ofNat 5) := by
    rw [hkeys, hkeypad]
    exact ⟨get_keypad_heldMachine, by simp [Keys.after, Keys.apply, HeldKeys.empty]⟩
  exact (Keys.isStray_expired.mpr hstray).1

/-- The report of a key while the machine runs. -/
def report : KeyReport := ⟨.char 'q', false, .press⟩

/-- With another key reported as well, that one is released and the restored one is not. -/
theorem pressed_iff_leftBehind_reported :
    ∃ c changes, Session heldLaunch (Machine.powerOn ⟨0, 0⟩) [] heldFiles heldFiles c changes ∧
      (∀ key seen, .reported key seen ∈ changes → seen + HeldKeys.defaultReleaseAfter < 51) ∧
      (c.releaseExpired 51).debugger.machine.isPressed (.ofNat 5) = true ∧
      ¬(c.releaseExpired 51).debugger.machine.isPressed (.ofNat 4) = true := by
  obtain ⟨c, hstart, hkeypad, hrunning⟩ := start_heldLaunch (Machine.powerOn ⟨0, 0⟩)
  have hkey : (c.onKey (m := StateM FileTree) 0 report).run heldFiles
      = ((c.whileRunning 0 (.char 'q'), none), heldFiles) := by
    rw [onKey, if_neg (by decide), if_pos hrunning]
    rfl
  have hchanges : c.keyChanges 0 report none = [.reported (.ofNat 4) 0] := by
    rw [keyChanges, if_pos ⟨by decide, hrunning⟩, show Keypad.ofKey? report.key = some (.ofNat 4)
      from by decide]
    rfl
  have hopened : Session heldLaunch (Machine.powerOn ⟨0, 0⟩) [] heldFiles heldFiles c
      [.restored heldMachine.keypad] := hkeypad ▸ .opened hstart
  have hsession : Session heldLaunch (Machine.powerOn ⟨0, 0⟩) [] heldFiles heldFiles _
      ([.restored heldMachine.keypad] ++ [.reported (.ofNat 4) 0]) :=
    hchanges ▸ hopened.onKey 0 report hkey
  have hlate : ∀ key seen,
      .reported key seen ∈ [KeyChange.restored heldMachine.keypad] ++ [.reported (.ofNat 4) 0] →
        seen + HeldKeys.defaultReleaseAfter < 51 := by
    intro key seen hmem
    obtain ⟨-, rfl⟩ : key = .ofNat 4 ∧ seen = 0 := by simpa using hmem
    decide
  refine ⟨_, _, hsession, hlate, ?_, ?_⟩
  · refine ((hsession.pressed_iff_leftBehind (.ofNat 5)).2 51 hlate).mpr ?_
    refine ⟨[], heldMachine.keypad, [.reported (.ofNat 4) 0], rfl, get_keypad_heldMachine, ?_, ?_⟩
    · simp [Keys.after, HeldKeys.empty]
    · simp [KeyChange.Settles, Nibble.ofNat]
  · rw [(hsession.pressed_iff_leftBehind (.ofNat 4)).2 51 hlate, Keys.leftBehind_append]
    simp [KeyChange.Settles]

end Console

end ChipEight
