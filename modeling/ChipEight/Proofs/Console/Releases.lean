import ChipEight.Console
import ChipEight.Files.Tree
import ChipEight.Proofs.Debugger.Poll
import ChipEight.Proofs.Keypad.Timeout

/-!
# Reports of released keys

A terminal that reports a key when it is released reports it to a console that is made for presses.
While the machine is paused, the console takes no notice of a release. While the machine runs, it
does not look at the phase of a key at all. Then a release is a press: it presses a key of the
machine or pauses it. With the control key held, a release interrupts as a press does.

So the console that is left by a list of inputs is not the one that is left when the releases among
them are taken out. It is the one that is left when those it heeds are replaced by presses and only
the others are taken out (`Console.play_asPresses`).
-/

namespace ChipEight

def KeyReport.asPress (r : KeyReport) : KeyReport := { r with phase := .press }

namespace Console

/-- The console takes notice of a report whatever the phase of the key: the report interrupts, or
the machine runs and the key pauses it or is one of its own. -/
def Heeds (c : Console) (r : KeyReport) : Prop :=
  r.isInterrupt = true ∨
    c.debugger.running = true ∧ (r.key = .escape ∨ (Keypad.ofKey? r.key).isSome = true)

instance (c : Console) (r : KeyReport) : Decidable (c.Heeds r) :=
  inferInstanceAs (Decidable (_ ∨ _))

variable {σ : Type} [MonadFiles (StateM σ)] {c c' : Console} {r : KeyReport} {now : Nat}
  {files files' : σ}

/-! ## One report -/

/-- Unless the machine is paused, the phase of a key makes no difference, nor does it for an
interrupt. -/
theorem onKey_asPress (h : r.isInterrupt = true ∨ c.debugger.running = true) :
    c.onKey (m := StateM σ) now r.asPress = c.onKey now r := by
  have hinterrupt : r.asPress.isInterrupt = r.isInterrupt := rfl
  rw [onKey, onKey, hinterrupt]
  rcases h with h | h
  · rw [if_pos h, if_pos h]
  · rw [if_pos h, if_pos h]
    rfl

theorem onKey_of_heeds (h : c.Heeds r) :
    c.onKey (m := StateM σ) now r.asPress = c.onKey now r :=
  onKey_asPress (h.imp_right And.left)

theorem whileRunning_of_not_heeds {key : Key} (hescape : key ≠ .escape)
    (hkey : Keypad.ofKey? key = none) : c.whileRunning now key = c := by
  rw [whileRunning, if_neg hescape, HeldKeys.press_of_none _ _ _ hkey]

theorem onKey_of_not_heeds (hrelease : r.phase = .release) (h : ¬c.Heeds r) :
    c.onKey (m := StateM σ) now r = pure (c, none) := by
  obtain ⟨hinterrupt, hunheeded⟩ := not_or.mp h
  rw [onKey, if_neg hinterrupt]
  split
  · next hrunning =>
    obtain ⟨hescape, hkey⟩ := not_or.mp (not_and.mp hunheeded hrunning)
    rw [whileRunning_of_not_heeds hescape (Option.not_isSome_iff_eq_none.mp hkey)]
  · rw [if_pos (by rw [hrelease]; decide)]

/-- No release types anything, submits a line or touches files. -/
theorem frame_of_release (hrelease : r.phase = .release) {e? : Option Execution}
    (h : (c.onKey (m := StateM σ) now r).run files = ((c', e?), files')) :
    c'.line = c.line ∧ c'.last = c.last ∧ e? = none ∧ files' = files := by
  rw [onKey] at h
  split at h
  · obtain ⟨⟨rfl, rfl⟩, rfl⟩ := Prod.mk.inj h
    exact ⟨rfl, rfl, rfl, rfl⟩
  · split at h
    · obtain ⟨⟨rfl, rfl⟩, rfl⟩ := Prod.mk.inj h
      rw [whileRunning]
      split
      · exact ⟨rfl, rfl, rfl, rfl⟩
      · exact ⟨rfl, rfl, rfl, rfl⟩
    · rw [if_pos (by rw [hrelease]; decide)] at h
      obtain ⟨⟨rfl, rfl⟩, rfl⟩ := Prod.mk.inj h
      exact ⟨rfl, rfl, rfl, rfl⟩

/-! ## Inputs -/

/-- What a console is given: reports of keys, elapsed time, and the time at which the keys are
released that have not been reported for too long. -/
inductive Input where
  | key (now : Nat) (r : KeyReport)
  | elapsed (dt : Float32)
  | expired (now : Nat)
  deriving DecidableEq

def Input.isRelease : Input → Bool
  | .key _ r => r.phase == .release
  | _ => false

/-- An input as the console takes it: a release is a press or nothing. -/
def Input.asPress? (c : Console) : Input → Option Input
  | .key now r =>
    if r.phase = .release then if c.Heeds r then some (.key now r.asPress) else none
    else some (.key now r)
  | input => some input

variable {s s' : Console × σ} {inputs : List Input}

/-- The console and the files after an input. There is no result if the machine never catches up
with the elapsed time. -/
def react (s : Console × σ) : Input → Option (Console × σ)
  | .key now r =>
    let taken := (s.1.onKey (m := StateM σ) now r).run s.2
    some (taken.1.1, taken.2)
  | .elapsed dt => (s.1.tick dt).map fun c ↦ (c, s.2)
  | .expired now => some (s.1.releaseExpired now, s.2)

/-- The console and the files after some inputs. -/
def play (inputs : List Input) (s : Console × σ) : Option (Console × σ) := inputs.foldlM react s

theorem play_cons (input : Input) (inputs : List Input) (s : Console × σ) :
    play (input :: inputs) s = (react s input).bind (play inputs) :=
  List.foldlM_cons

theorem play_append (inputs since : List Input) (s : Console × σ) :
    play (inputs ++ since) s = (play inputs s).bind (play since) :=
  List.foldlM_append

/-- The inputs as the console takes them one by one, until it never catches up. -/
def asPresses (s : Console × σ) : List Input → List Input
  | [] => []
  | input :: inputs =>
    (input.asPress? s.1).toList ++ (react s input).elim [] fun next ↦ asPresses next inputs

theorem react_of_not_heeds (hrelease : r.phase = .release) (h : ¬s.1.Heeds r) :
    react s (.key now r) = some s := by
  rw [react, onKey_of_not_heeds hrelease h]
  rfl

theorem play_asPress? (s : Console × σ) (input : Input) :
    play (input.asPress? s.1).toList s = react s input := by
  have hsingle (input : Input) : play [input] s = react s input := by
    rw [play_cons]
    exact Option.bind_fun_some _
  cases input with
  | key now r =>
    rw [Input.asPress?]
    split
    · next hrelease =>
      split
      · next hheeds =>
        rw [Option.toList_some, hsingle, react, react, onKey_of_heeds hheeds]
      · next hheeds =>
        rw [react_of_not_heeds hrelease hheeds]
        rfl
    · exact hsingle _
  | elapsed dt => exact hsingle _
  | expired now => exact hsingle _

theorem isRelease_of_asPress? {input input' : Input} (h : input.asPress? c = some input') :
    input'.isRelease = false := by
  cases input with
  | key now r =>
    rw [Input.asPress?] at h
    split at h
    · split at h
      · obtain rfl := Option.some.inj h
        rfl
      · cases h
    · next hphase =>
      obtain rfl := Option.some.inj h
      exact beq_eq_false_iff_ne.mpr hphase
  | elapsed dt =>
    obtain rfl := Option.some.inj h
    rfl
  | expired now =>
    obtain rfl := Option.some.inj h
    rfl

/-- **Releases are presses or nothing.** Nothing changes when each input is replaced by what the
console takes it for. -/
theorem play_asPresses (inputs : List Input) (s : Console × σ) :
    play (asPresses s inputs) s = play inputs s := by
  induction inputs generalizing s with
  | nil => rfl
  | cons input inputs ih =>
    rw [asPresses, play_append, play_asPress?, play_cons]
    cases react s input with
    | none => rfl
    | some next => exact ih next

theorem isRelease_of_mem_asPresses {inputs : List Input} {input : Input}
    (h : input ∈ asPresses s inputs) : input.isRelease = false := by
  induction inputs generalizing s with
  | nil => cases h
  | cons first inputs ih =>
    rw [asPresses, List.mem_append, Option.mem_toList] at h
    rcases h with h | h
    · exact isRelease_of_asPress? h
    · cases hreact : react s first with
      | none =>
        rw [hreact] at h
        cases h
      | some next =>
        rw [hreact] at h
        exact ih h

/-- The input at place `i` is a release that the console heeds. -/
def HeededAt (s : Console × σ) (inputs : List Input) (i : ℕ) : Prop :=
  ∃ now r before, inputs[i]? = some (.key now r) ∧ r.phase = .release ∧
    play (inputs.take i) s = some before ∧ before.1.Heeds r

theorem heededAt_succ {input : Input} {next : Console × σ} (hnext : react s input = some next)
    {i : ℕ} : HeededAt s (input :: inputs) (i + 1) ↔ HeededAt next inputs i := by
  rw [HeededAt, HeededAt, List.getElem?_cons_succ, List.take_succ_cons, play_cons, hnext,
    Option.bind_some]

/-- Releases that are not heeded can be taken out. -/
theorem play_filter (h : ∀ i, ¬HeededAt s inputs i) :
    play (inputs.filter fun input ↦ !input.isRelease) s = play inputs s := by
  induction inputs generalizing s with
  | nil => rfl
  | cons input inputs ih =>
    have htail {next : Console × σ} (hnext : react s input = some next) :
        play (inputs.filter fun input ↦ !input.isRelease) next = play inputs next :=
      ih fun i ↦ mt (heededAt_succ hnext).mpr (h (i + 1))
    cases hrelease : input.isRelease with
    | false =>
      rw [List.filter_cons_of_pos (by rw [hrelease]; rfl), play_cons, play_cons]
      cases hreact : react s input with
      | none => rfl
      | some next => exact htail hreact
    | true =>
      rw [List.filter_cons_of_neg (by rw [hrelease]; decide), play_cons]
      cases input with
      | key now r =>
        have hphase : r.phase = .release := beq_iff_eq.mp hrelease
        have hreact : react s (.key now r) = some s :=
          react_of_not_heeds hphase fun hheeds ↦ h 0 ⟨now, r, s, rfl, hphase, rfl, hheeds⟩
        rw [hreact, Option.bind_some]
        exact htail hreact
      | elapsed dt => cases hrelease
      | expired now => cases hrelease

/-- **Releases act as presses.** The report of a released key does what the report of the same key
being pressed does, if the console heeds it, and nothing otherwise; it types nothing, submits no
line and touches no file. So a list of inputs leaves the same console and the same files as the list
without releases in which those that were heeded are presses. It leaves the same as the list from
which the releases are just taken out if none of them was heeded. -/
theorem release_reports_act_as_presses (inputs : List Input) (s : Console × σ) :
    (∀ (c : Console) (now : Nat) (r : KeyReport) (files : σ), r.phase = .release →
      (c.onKey (m := StateM σ) now r).run files =
        if c.Heeds r then (c.onKey (m := StateM σ) now r.asPress).run files
        else ((c, none), files)) ∧
    (∀ (c c' : Console) (now : Nat) (r : KeyReport) (e? : Option Execution) (files files' : σ),
      r.phase = .release → (c.onKey (m := StateM σ) now r).run files = ((c', e?), files') →
        c'.line = c.line ∧ c'.last = c.last ∧ e? = none ∧ files' = files) ∧
    play (asPresses s inputs) s = play inputs s ∧
    (∀ input ∈ asPresses s inputs, input.isRelease = false) ∧
    ((∀ i, ¬HeededAt s inputs i) →
      play (inputs.filter fun input ↦ !input.isRelease) s = play inputs s) := by
  refine ⟨fun c now r files hrelease ↦ ?_, fun c c' now r e? files files' hrelease ↦ ?_,
    play_asPresses inputs s, fun input ↦ isRelease_of_mem_asPresses, play_filter⟩
  · split
    · next hheeds => rw [onKey_of_heeds hheeds]
    · next hheeds =>
      rw [onKey_of_not_heeds hrelease hheeds]
      rfl
  · exact frame_of_release hrelease

/-- A console whose machine runs, and no files. -/
def attended : Console × FileTree := (ofDebugger Debugger.spinning, ⟨[]⟩)

/-- Two keys are released: one of the machine, then the escape key. -/
def letGo : List Input :=
  [.key 0 ⟨.char 'w', false, .release⟩, .key 0 ⟨.escape, false, .release⟩]

/-- The releases press the key and pause the machine. Without them it runs and no key is pressed. -/
theorem releases_press_and_pause :
    (∃ c, play letGo attended = some (c, ⟨[]⟩) ∧
      c.debugger.machine.isPressed (.ofNat 5) = true ∧ c.debugger.running = false) ∧
    play (letGo.filter fun input ↦ !input.isRelease) attended = some attended ∧
      attended.1.debugger.machine.isPressed (.ofNat 5) = false ∧
      attended.1.debugger.running = true :=
  ⟨⟨_, rfl, rfl, rfl⟩, rfl, rfl, rfl⟩

end Console

end ChipEight
