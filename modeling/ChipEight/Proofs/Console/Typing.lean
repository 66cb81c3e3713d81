import ChipEight.Proofs.Console.Releases
import ChipEight.Proofs.Debugger.Running
import Mathlib.Data.List.DropRight

/-!
# Whose the keyboard is

The same keys type commands while the machine is paused and play on its keypad while it runs, and
the machine is started and stopped by commands, keys, breakpoints and faults in between. So what a
key means depends on what has happened before it, and what was typed cannot be read off the reports
of keys alone. `Console.strokes` picks out the presses that found the machine paused. The line is
what these have typed since the last enter key, whatever else went on (`line_of_play`).

The two sides do not get into each other's way. While the machine runs, a key does no more to the
debugger than press a single key of the machine or pause it; while it is paused, only the enter key
reaches the debugger at all.
-/

namespace ChipEight

namespace Console

/-! ## What keys type -/

/-- The line after one more key: a character is added to it, and the backspace key takes away the
last character that remains. -/
def strike (line : List Char) : Key → List Char
  | .char a => line ++ [a]
  | .backspace => line.dropLast
  | .enter | .escape | .other => line

/-- What keys type one after the other. -/
def typed (keys : List Key) : List Char := keys.foldl strike []

/-- The keys behind the last enter key. -/
def sinceEnter (keys : List Key) : List Key := keys.rtakeWhile (· ≠ .enter)

theorem typed_concat (keys : List Key) (key : Key) :
    typed (keys ++ [key]) = strike (typed keys) key :=
  List.foldl_append

theorem sinceEnter_concat_enter (keys : List Key) : sinceEnter (keys ++ [.enter]) = [] :=
  List.rtakeWhile_concat_neg _ _ _ (by decide)

theorem sinceEnter_concat {key : Key} (keys : List Key) (hkey : key ≠ .enter) :
    sinceEnter (keys ++ [key]) = sinceEnter keys ++ [key] :=
  List.rtakeWhile_concat_pos _ _ _ (decide_eq_true hkey)

/-! ## Presses that find the machine paused -/

/-- The key that an input strikes: the machine is paused, and a key is pressed that does not
interrupt. -/
def Input.stroke? (c : Console) : Input → Option Key
  | .key _ r =>
    if c.debugger.running = false ∧ r.phase = .press ∧ r.isInterrupt = false then some r.key
    else none
  | _ => none

variable {σ : Type} [MonadFiles (StateM σ)] {c c' : Console} {s s' : Console × σ} {r : KeyReport}
  {now : Nat} {files files' : σ} {inputs : List Input} {input : Input}

/-- The keys that some inputs strike, in order. -/
def strokes (s : Console × σ) : List Input → List Key
  | [] => []
  | input :: inputs =>
    (input.stroke? s.1).toList ++ (react s input).elim [] fun next ↦ strokes next inputs

theorem strokes_concat (h : play inputs s = some s') :
    strokes s (inputs ++ [input]) = strokes s inputs ++ (input.stroke? s'.1).toList := by
  induction inputs generalizing s with
  | nil =>
    obtain rfl := Option.some.inj h
    cases hreact : react s input <;> simp [strokes, hreact]
  | cons first inputs ih =>
    rw [play_cons] at h
    obtain ⟨next, hnext, hrest⟩ := Option.bind_eq_some_iff.mp h
    rw [List.cons_append, strokes, strokes, hnext, Option.elim_some, Option.elim_some, ih hrest,
      List.append_assoc]

/-! ## The line -/

theorem onKey_of_stroke (hpaused : c.debugger.running = false) (hpress : r.phase = .press)
    (hinterrupt : r.isInterrupt = false) :
    c.onKey (m := StateM σ) now r
      = if r.key = .enter then c.submit else pure (c.edit r.key, none) := by
  rw [onKey, hinterrupt, if_neg Bool.false_ne_true, hpaused, if_neg Bool.false_ne_true,
    if_neg (not_not.mpr hpress)]

theorem line_shown (c : Console) (e : Execution) : (c.shown e).line = c.line := by
  rw [shown]
  split <;> rfl

theorem line_submit (c : Console) (files : σ) :
    ((c.submit (m := StateM σ)).run files).1.1.line = [] := by
  rw [submit]
  cases c.asked (String.ofList c.line) with
  | error fault => rfl
  | ok command? =>
    cases command? with
    | none => rfl
    | some command => exact line_shown _ _

theorem line_whileRunning (c : Console) (now : Nat) (key : Key) :
    (c.whileRunning now key).line = c.line := by
  rw [whileRunning]
  split <;> rfl

theorem line_edit (c : Console) (key : Key) : (c.edit key).line = strike c.line key := by
  cases key <;> rfl

theorem line_onKey_of_no_stroke (files : σ)
    (h : ¬(c.debugger.running = false ∧ r.phase = .press ∧ r.isInterrupt = false)) :
    ((c.onKey (m := StateM σ) now r).run files).1.1.line = c.line := by
  rw [onKey]
  by_cases hinterrupt : r.isInterrupt = true
  · rw [if_pos hinterrupt]
    rfl
  · rw [if_neg hinterrupt]
    by_cases hrunning : c.debugger.running = true
    · rw [if_pos hrunning]
      exact c.line_whileRunning now r.key
    · have hphase : r.phase ≠ .press := fun hpress ↦
        h ⟨Bool.eq_false_iff.mpr hrunning, hpress, Bool.eq_false_iff.mpr hinterrupt⟩
      rw [if_neg hrunning, if_pos hphase]
      rfl

theorem line_onKey (c : Console) (now : Nat) (r : KeyReport) (files : σ) :
    ((c.onKey (m := StateM σ) now r).run files).1.1.line
      = ((Input.key now r).stroke? c).elim c.line fun key ↦
          if key = .enter then [] else strike c.line key := by
  rw [Input.stroke?]
  split
  · next hstroke =>
    obtain ⟨hpaused, hpress, hinterrupt⟩ := hstroke
    rw [onKey_of_stroke hpaused hpress hinterrupt, Option.elim_some]
    split
    · exact c.line_submit files
    · exact c.line_edit r.key
  · next hstroke => exact line_onKey_of_no_stroke files hstroke

theorem line_tick {dt : Float32} (h : c.tick dt = some c') : c'.line = c.line := by
  obtain ⟨_, -, rfl⟩ := Option.map_eq_some_iff.mp h
  rfl

theorem line_react (h : react s input = some s') :
    s'.1.line = (input.stroke? s.1).elim s.1.line fun key ↦
      if key = .enter then [] else strike s.1.line key := by
  cases input with
  | key now r =>
    obtain rfl := Option.some.inj h
    exact line_onKey s.1 now r s.2
  | elapsed dt =>
    obtain ⟨c', htick, rfl⟩ := Option.map_eq_some_iff.mp h
    exact line_tick htick
  | expired now =>
    obtain rfl := Option.some.inj h
    rfl

/-- **The line is what has been typed.** -/
theorem line_of_play (hline : s.1.line = []) (h : play inputs s = some s') :
    s'.1.line = typed (sinceEnter (strokes s inputs)) := by
  induction inputs using List.reverseRecOn generalizing s' with
  | nil =>
    obtain rfl := Option.some.inj h
    exact hline
  | append_singleton inputs input ih =>
    rw [play_append] at h
    obtain ⟨before, hbefore, hlast⟩ := Option.bind_eq_some_iff.mp h
    rw [play_cons] at hlast
    obtain ⟨after, hreact, hnil⟩ := Option.bind_eq_some_iff.mp hlast
    obtain rfl := Option.some.inj hnil
    rw [line_react hreact, strokes_concat hbefore, ih hbefore]
    cases input.stroke? before.1 with
    | none => rw [Option.elim_none, Option.toList_none, List.append_nil]
    | some key =>
      rw [Option.elim_some, Option.toList_some]
      split
      · next henter => rw [henter, sinceEnter_concat_enter, typed, List.foldl_nil]
      · next henter => rw [sinceEnter_concat _ henter, typed_concat]

theorem line_of_start {l : Launch} {machine : Machine} {program : List UInt8}
    (h : (start (m := StateM σ) l machine program).run files = (.ok c, files')) : c.line = [] := by
  rw [start] at h
  cases hd : debuggerOf l machine program with
  | error fault =>
    rw [hd] at h
    cases (Prod.mk.inj h).1
  | ok d =>
    rw [hd, StateT.run_bind] at h
    rcases hr : (restoreSaved (m := StateM σ) d l.saved).run files with ⟨fault | d', files₁⟩
    · rw [hr] at h
      cases (Prod.mk.inj h).1
    · rw [hr] at h
      obtain rfl := Except.ok.inj (Prod.mk.inj h).1
      rfl

/-! ## The debugger -/

/-- While the machine runs, a key of the keyboard presses one key of the machine at most, or pauses
it. -/
theorem debugger_whileRunning (c : Console) (now : Nat) (key : Key) :
    (c.whileRunning now key).debugger = c.debugger ∨
      (c.whileRunning now key).debugger = { c.debugger with running := false } ∨
      ∃ k, (c.whileRunning now key).debugger
        = { c.debugger with machine := c.debugger.machine.setKey k true } := by
  rw [whileRunning]
  split
  · exact .inr (.inl rfl)
  · cases hkey : Keypad.ofKey? key with
    | none =>
      rw [HeldKeys.press_of_none _ _ _ hkey]
      exact .inl rfl
    | some k =>
      rw [HeldKeys.press, HeldKeys.press?, hkey]
      exact .inr (.inr ⟨k, rfl⟩)

theorem last_whileRunning (c : Console) (now : Nat) (key : Key) :
    (c.whileRunning now key).last = c.last := by
  rw [whileRunning]
  split <;> rfl

theorem debugger_edit (c : Console) (key : Key) : (c.edit key).debugger = c.debugger := by
  cases key <;> rfl

/-- While the machine is paused, no report but the press of the enter key reaches the debugger. -/
theorem debugger_onKey_of_paused (hpaused : c.debugger.running = false)
    (henter : ¬(r.key = .enter ∧ r.phase = .press)) :
    ∃ after, (c.onKey (m := StateM σ) now r).run files = ((after, none), files) ∧
      after.debugger = c.debugger := by
  by_cases hstroke : r.phase = .press ∧ r.isInterrupt = false
  · rw [onKey_of_stroke hpaused hstroke.1 hstroke.2, if_neg fun hkey ↦ henter ⟨hkey, hstroke.1⟩]
    exact ⟨_, rfl, c.debugger_edit r.key⟩
  · rw [onKey, hpaused]
    split
    · exact ⟨_, rfl, rfl⟩
    · next hinterrupt =>
      have hphase : r.phase ≠ .press := fun hpress ↦
        hstroke ⟨hpress, Bool.eq_false_iff.mpr hinterrupt⟩
      rw [if_neg Bool.false_ne_true, if_pos hphase]
      exact ⟨_, rfl, rfl⟩

theorem onKey_of_running (files : σ) (hrunning : c.debugger.running = true) :
    ∃ after, (c.onKey (m := StateM σ) now r).run files = ((after, none), files) ∧
      after.line = c.line ∧ after.last = c.last ∧
      (after.debugger = c.debugger ∨ after.debugger = { c.debugger with running := false } ∨
        ∃ k, after.debugger
          = { c.debugger with machine := c.debugger.machine.setKey k true }) := by
  rw [onKey]
  by_cases hinterrupt : r.isInterrupt = true
  · rw [if_pos hinterrupt]
    exact ⟨_, rfl, rfl, rfl, .inl rfl⟩
  · rw [if_neg hinterrupt, if_pos hrunning]
    exact ⟨_, rfl, c.line_whileRunning now r.key, c.last_whileRunning now r.key,
      c.debugger_whileRunning now r.key⟩

theorem tick_of_paused (hpaused : c.debugger.running = false) (dt : Float32) :
    c.tick dt = some c := by
  rw [tick, Debugger.poll_of_not_running hpaused]
  rfl

/-- **The keyboard has one owner at a time.** In every session, the line is what was typed since the
last enter key by presses that found the machine paused, interrupts apart, where each press of the
backspace key takes away the last character that remains.

While the machine runs, a report of a key changes neither the line, the last command, the
breakpoints nor the files, and all it can do to the debugger is press one key of the machine or
pause it. While the machine is paused, no report but the press of the enter key changes the
debugger, and elapsed time changes nothing at all. At no time does elapsed time touch the line, the
last command or the breakpoints. -/
theorem keyboard_has_one_owner {l : Launch} {machine : Machine} {program : List UInt8}
    (hstart : (start (m := StateM σ) l machine program).run files = (.ok c, files'))
    (hplay : play inputs (c, files') = some s') :
    s'.1.line = typed (sinceEnter (strokes (c, files') inputs)) ∧
    (∀ (c : Console) (now : Nat) (r : KeyReport) (files : σ), c.debugger.running = true →
      ∃ after, (c.onKey (m := StateM σ) now r).run files = ((after, none), files) ∧
        after.line = c.line ∧ after.last = c.last ∧
        after.debugger.breakpoints = c.debugger.breakpoints ∧
        (after.debugger = c.debugger ∨ after.debugger = { c.debugger with running := false } ∨
          ∃ k, after.debugger
            = { c.debugger with machine := c.debugger.machine.setKey k true })) ∧
    (∀ (c : Console) (now : Nat) (r : KeyReport) (files : σ), c.debugger.running = false →
      ¬(r.key = .enter ∧ r.phase = .press) →
      ∃ after, (c.onKey (m := StateM σ) now r).run files = ((after, none), files) ∧
        after.debugger = c.debugger) ∧
    (∀ (c : Console) (dt : Float32), c.debugger.running = false → c.tick dt = some c) ∧
    ∀ (c after : Console) (dt : Float32), c.tick dt = some after →
      after.line = c.line ∧ after.last = c.last ∧
      after.debugger.breakpoints = c.debugger.breakpoints := by
  refine ⟨line_of_play (line_of_start hstart) hplay, fun c now r files hrunning ↦ ?_,
    fun c now r files ↦ debugger_onKey_of_paused, fun c dt hpaused ↦ tick_of_paused hpaused dt,
    fun c after dt htick ↦ ?_⟩
  · obtain ⟨after, hafter, hline, hlast, hdebugger⟩ := onKey_of_running files hrunning
    refine ⟨after, hafter, hline, hlast, ?_, hdebugger⟩
    rcases hdebugger with hsame | hpaused | ⟨k, hpressed⟩
    · rw [hsame]
    · rw [hpaused]
    · rw [hpressed]
  · obtain ⟨polled, hpoll, rfl⟩ := Option.map_eq_some_iff.mp htick
    exact ⟨rfl, rfl, Debugger.breakpoints_of_poll hpoll⟩

def pausedLaunch : Launch where
  program := "program"
  rate := Clock.defaultRate
  seed := some 0
  saved := none
  run := false
  logFile := none
  logFilter := "warn"

/-- A slip is typed and mended, and the line is submitted, which lets the machine run. Then a key of
the machine is pressed, the machine is paused, and the same key is typed and taken back. -/
def typedAround : List Input :=
  [.key 0 ⟨.char 'r', false, .press⟩, .key 1 ⟨.char 'i', false, .press⟩,
    .key 2 ⟨.backspace, false, .press⟩, .key 3 ⟨.char 'u', false, .press⟩,
    .key 4 ⟨.char 'n', false, .press⟩, .key 5 ⟨.enter, false, .press⟩,
    .key 6 ⟨.char 'w', false, .press⟩, .key 7 ⟨.escape, false, .press⟩,
    .key 8 ⟨.char 's', false, .press⟩, .key 9 ⟨.char 'w', false, .press⟩,
    .key 10 ⟨.backspace, false, .press⟩]

/-- Of all that, a single character is on the line in the end. -/
theorem keyboard_has_one_owner_typedAround :
    ∃ c s', (start (m := StateM FileTree) pausedLaunch (Machine.powerOn ⟨0, 0⟩)
        [0x12, 0x00]).run FileTree.empty = (.ok c, FileTree.empty) ∧
      play typedAround (c, FileTree.empty) = some s' ∧ s'.1.line = ['s'] := by
  let paused : Console := ofDebugger { Debugger.spinning with breakpoints := [], running := false }
  have hstart : (start (m := StateM FileTree) pausedLaunch (Machine.powerOn ⟨0, 0⟩)
      [0x12, 0x00]).run FileTree.empty = (.ok paused, FileTree.empty) := rfl
  obtain ⟨s', hplay⟩ : ∃ s', play typedAround (paused, FileTree.empty) = some s' := ⟨_, rfl⟩
  refine ⟨paused, s', hstart, hplay, ?_⟩
  rw [(keyboard_has_one_owner hstart hplay).1]
  decide +kernel

end Console

end ChipEight
