import ChipEight.Proofs.Console.Typing

/-!
# Lines without words

A line without words submits the last command again. What the console keeps for this is rewritten
with every line: by a command, by the repetition of one, and by a line that is no command. Yet it
can be told from the lines alone, and no run of them is needed for it: it is the command on the last
line with words, if there is one on it (`Console.Remembers.converse`). How executing a command ends
has no part in it.

So repetitions can be spelled out beforehand: every line without words is replaced by the last line
with words, or left out if that is no command. The console takes both conversations in the same way,
one turn after the other, and in the end nothing tells them apart but what is left on the line.
-/

namespace ChipEight

namespace Console

/-- What a console is given when lines are all that is looked at. -/
inductive Turn where
  /-- A line is submitted. -/
  | line (text : String)
  | elapsed (dt : Float32)
  deriving DecidableEq

variable {σ : Type} [MonadFiles (StateM σ)] {c : Console} {s s' : Console × σ} {turn : Turn}
  {turns : List Turn} {recent : Option String} {text : String}

/-- The console and the files after a turn. There is no result if the machine never catches up with
the elapsed time. -/
def respond (s : Console × σ) : Turn → Option (Console × σ)
  | .line text =>
    let submitted := ({ s.1 with line := text.toList }.submit (m := StateM σ)).run s.2
    some (submitted.1.1, submitted.2)
  | .elapsed dt => (s.1.tick dt).map fun c ↦ (c, s.2)

/-- The console and the files after some turns. -/
def converse (turns : List Turn) (s : Console × σ) : Option (Console × σ) :=
  turns.foldlM respond s

theorem converse_cons (turn : Turn) (turns : List Turn) (s : Console × σ) :
    converse (turn :: turns) s = (respond s turn).bind (converse turns) :=
  List.foldlM_cons

/-! ## What lines ask for -/

/-- The command on a line with words, if there is one on it. -/
def commandOf? (text : String) : Option Command := (Command.ofLine text).toOption

/-- The last line with words after one more turn. -/
def remember (recent : Option String) : Turn → Option String
  | .line text => if isBlankLine text then recent else some text
  | .elapsed _ => recent

/-- What there is to repeat, where `recent` is the last line with words: that line, if there is a
command on it. -/
def repeated? (recent : Option String) : Option String :=
  recent.filter fun text ↦ (commandOf? text).isSome

/-- A turn with a repetition spelled out: a line without words becomes the line that it repeats, or
nothing if there is none. -/
def spellOut? (recent : Option String) : Turn → Option Turn
  | .line text =>
    if isBlankLine text then (repeated? recent).map .line else some (.line text)
  | .elapsed dt => some (.elapsed dt)

/-- Some turns with all repetitions spelled out. -/
def spelledOut (recent : Option String) : List Turn → List Turn
  | [] => []
  | turn :: turns => (spellOut? recent turn).toList ++ spelledOut (remember recent turn) turns

/-! ## One line -/

theorem last_shown (c : Console) (e : Execution) : (c.shown e).last = c.last := by
  rw [shown]
  split <;> rfl

theorem asked_of_blank (h : isBlankLine text = true) : c.asked text = .ok c.last := if_pos h

theorem asked_of_words (h : isBlankLine text = false) :
    c.asked text = (Command.ofLine text).map some := by
  rw [asked, h, if_neg Bool.false_ne_true]

theorem asked_of_command {command : Command} (hwords : isBlankLine text = false)
    (h : commandOf? text = some command) : c.asked text = .ok (some command) := by
  rw [asked_of_words hwords]
  rw [commandOf?] at h
  cases hline : Command.ofLine text with
  | error fault =>
    rw [hline] at h
    cases h
  | ok command =>
    rw [hline] at h
    obtain rfl := Option.some.inj h
    rfl

theorem asked_typing (c : Console) (text : String) :
    asked { c with line := text.toList } (String.ofList text.toList) = c.asked text := by
  rw [String.ofList_toList]
  rfl

theorem respond_of_refused {fault : UsageFault} (h : s.1.asked text = .error fault) :
    respond s (.line text)
      = some ({ s.1 with line := [], output := fault.message, last := none }, s.2) := by
  simp only [respond, submit, asked_typing, h]
  rfl

theorem respond_of_nothing (h : s.1.asked text = .ok none) :
    respond s (.line text) = some ({ s.1 with line := [] }, s.2) := by
  simp only [respond, submit, asked_typing, h]
  rfl

theorem respond_of_command {command : Command} (h : s.1.asked text = .ok (some command)) :
    respond s (.line text)
      = some (shown { s.1 with line := [], last := some command }
            ((s.1.debugger.perform (m := StateM σ) command).run s.2).1,
          ((s.1.debugger.perform (m := StateM σ) command).run s.2).2) := by
  simp only [respond, submit, asked_typing, h]
  rfl

theorem respond_congr {command : Command} {other : String}
    (h : s.1.asked text = .ok (some command)) (hother : s.1.asked other = .ok (some command)) :
    respond s (.line text) = respond s (.line other) := by
  rw [respond_of_command h, respond_of_command hother]

/-! ## The last line with words -/

/-- The last line with words is `recent`, and the console keeps the command on it. -/
structure Remembers (c : Console) (recent : Option String) : Prop where
  last : c.last = recent.bind commandOf?
  words : ∀ r ∈ recent, isBlankLine r = false

theorem Remembers.of_last_eq {c' : Console} (h : c.Remembers recent) (hlast : c'.last = c.last) :
    c'.Remembers recent :=
  ⟨hlast.trans h.last, h.words⟩

theorem Remembers.respond (h : s.1.Remembers recent) (hnext : respond s turn = some s') :
    s'.1.Remembers (remember recent turn) := by
  cases turn with
  | elapsed dt =>
    obtain ⟨c, htick, rfl⟩ := Option.map_eq_some_iff.mp hnext
    obtain ⟨polled, -, rfl⟩ := Option.map_eq_some_iff.mp htick
    exact h.of_last_eq rfl
  | line text =>
    rw [remember]
    cases hblank : isBlankLine text with
    | true =>
      rw [if_pos rfl]
      refine h.of_last_eq ?_
      cases hlast : s.1.last with
      | none =>
        rw [respond_of_nothing (hlast ▸ asked_of_blank hblank)] at hnext
        obtain rfl := Option.some.inj hnext
        exact hlast
      | some command =>
        rw [respond_of_command (hlast ▸ asked_of_blank hblank)] at hnext
        obtain rfl := Option.some.inj hnext
        exact last_shown _ _
    | false =>
      rw [if_neg Bool.false_ne_true]
      refine ⟨?_, fun r hr ↦ Option.some.inj hr ▸ hblank⟩
      rw [Option.bind_some, commandOf?]
      have hasked := asked_of_words (c := s.1) hblank
      cases hline : Command.ofLine text with
      | error fault =>
        rw [hline] at hasked
        rw [respond_of_refused hasked] at hnext
        obtain rfl := Option.some.inj hnext
        rfl
      | ok command =>
        rw [hline] at hasked
        rw [respond_of_command hasked] at hnext
        obtain rfl := Option.some.inj hnext
        exact last_shown _ _

/-- A console and the files, without what is left on the line. -/
def apartFromLine (s : Console × σ) : Console × σ := ({ s.1 with line := [] }, s.2)

/-- A line without words does what the line would do that it repeats. It empties the line if there
is none. -/
theorem respond_of_blank (h : s.1.Remembers recent) (hblank : isBlankLine text = true) :
    respond s (.line text)
      = (repeated? recent).elim (some (apartFromLine s)) fun r ↦ respond s (.line r) := by
  have hasked := asked_of_blank (c := s.1) hblank
  rw [h.last] at hasked
  cases recent with
  | none => exact respond_of_nothing hasked
  | some r =>
    rw [Option.bind_some] at hasked
    cases hcommand : commandOf? r with
    | none =>
      rw [repeated?, Option.filter_some_neg (by simp [hcommand])]
      exact respond_of_nothing (hcommand ▸ hasked)
    | some command =>
      rw [repeated?, Option.filter_some_pos (by simp [hcommand])]
      exact respond_congr (hcommand ▸ hasked) (asked_of_command (h.words r rfl) hcommand)

/-! ## Spelling out -/

theorem respond_apartFromLine (s : Console × σ) (turn : Turn) :
    (respond (apartFromLine s) turn).map apartFromLine = (respond s turn).map apartFromLine := by
  cases turn with
  | line text => rfl
  | elapsed dt =>
    rw [respond, respond, tick, tick, Option.map_map, Option.map_map, Option.map_map,
      Option.map_map]
    rfl

/-- What is left on the line makes no difference to what comes of any turns. -/
theorem converse_congr {t : Console × σ} (h : apartFromLine s = apartFromLine t)
    (turns : List Turn) :
    (converse turns s).map apartFromLine = (converse turns t).map apartFromLine := by
  induction turns generalizing s t with
  | nil => exact congrArg some h
  | cons turn turns ih =>
    have hturn : (respond s turn).map apartFromLine = (respond t turn).map apartFromLine := by
      rw [← respond_apartFromLine s, h, respond_apartFromLine]
    rw [converse_cons, converse_cons]
    cases hs : respond s turn with
    | none =>
      rw [hs, Option.map_none, eq_comm, Option.map_eq_none_iff] at hturn
      rw [hturn]
    | some next =>
      rw [hs, Option.map_some, eq_comm] at hturn
      obtain ⟨next', hnext', hsame⟩ := Option.map_eq_some_iff.mp hturn
      rw [hnext']
      exact ih hsame.symm

theorem converse_spellOut? (h : s.1.Remembers recent) (turn : Turn) :
    (converse (spellOut? recent turn).toList s).map apartFromLine
      = (respond s turn).map apartFromLine := by
  have hsingle (turn : Turn) : converse [turn] s = respond s turn := by
    rw [converse_cons]
    exact Option.bind_fun_some _
  cases turn with
  | elapsed dt => rw [spellOut?, Option.toList_some, hsingle]
  | line text =>
    rw [spellOut?]
    cases hblank : isBlankLine text with
    | false => rw [if_neg Bool.false_ne_true, Option.toList_some, hsingle]
    | true =>
      rw [if_pos rfl, respond_of_blank h hblank]
      cases repeated? recent with
      | none => rfl
      | some r => rw [Option.map_some, Option.toList_some, hsingle, Option.elim_some]

theorem converse_append (turns since : List Turn) (s : Console × σ) :
    converse (turns ++ since) s = (converse turns s).bind (converse since) :=
  List.foldlM_append

/-- Turns and what they are spelled out to come to the same, apart from the line. -/
theorem converse_spelledOut (h : s.1.Remembers recent) (turns : List Turn) :
    (converse (spelledOut recent turns) s).map apartFromLine
      = (converse turns s).map apartFromLine := by
  induction turns generalizing s recent with
  | nil => rfl
  | cons turn turns ih =>
    have hturn := converse_spellOut? h turn
    rw [spelledOut, converse_append, converse_cons]
    cases hs : respond s turn with
    | none =>
      rw [hs, Option.map_none, Option.map_eq_none_iff] at hturn
      rw [hturn]
      rfl
    | some next =>
      rw [hs, Option.map_some] at hturn
      obtain ⟨next', hnext', hsame⟩ := Option.map_eq_some_iff.mp hturn
      rw [hnext', Option.bind_some, Option.bind_some, converse_congr hsame]
      exact ih (h.respond hs)

theorem Remembers.converse (h : s.1.Remembers recent) (hturns : converse turns s = some s') :
    s'.1.Remembers (turns.foldl remember recent) := by
  induction turns generalizing s recent with
  | nil =>
    obtain rfl := Option.some.inj hturns
    exact h
  | cons turn turns ih =>
    rw [converse_cons] at hturns
    obtain ⟨next, hnext, hrest⟩ := Option.bind_eq_some_iff.mp hturns
    exact ih (h.respond hnext) hrest

/-! ## Typing a line -/

/-- The characters of a line are pressed and then the enter key. -/
def pressesOf (now : Nat) (text : String) : List Input :=
  (text.toList.map fun a ↦ .key now ⟨.char a, false, .press⟩) ++
    [.key now ⟨.enter, false, .press⟩]

theorem play_characters {files : σ} (hpaused : c.debugger.running = false) (now : Nat)
    (cs : List Char) :
    play (cs.map fun a ↦ .key now ⟨.char a, false, .press⟩) (c, files)
      = some ({ c with line := c.line ++ cs }, files) := by
  induction cs generalizing c with
  | nil =>
    rw [List.append_nil]
    rfl
  | cons a cs ih =>
    have hreact : react (c, files) (.key now ⟨.char a, false, .press⟩)
        = some ({ c with line := c.line ++ [a] }, files) := by
      rw [react, onKey_of_stroke hpaused rfl rfl, if_neg Key.noConfusion]
      rfl
    rw [List.map_cons, play_cons, hreact, Option.bind_some]
    rw [ih (c := { c with line := c.line ++ [a] }) hpaused, List.append_assoc,
      List.singleton_append]

/-- While the machine is paused, pressing the keys of a line and the enter key submits it. -/
theorem play_pressesOf {files : σ} (hpaused : c.debugger.running = false) (hline : c.line = [])
    (now : Nat) (text : String) :
    play (pressesOf now text) (c, files) = respond (c, files) (.line text) := by
  have hpaused' : { c with line := c.line ++ text.toList }.debugger.running = false := hpaused
  rw [pressesOf, play_append, play_characters hpaused, Option.bind_some, play_cons, react,
    onKey_of_stroke hpaused' rfl rfl, if_pos rfl, hline, List.nil_append]
  rfl

/-! ## Repetition -/

/-- **A line without words repeats the last command.** Let the console keep no command. Replace, in
any lines that are submitted with time in between, each line without words by the last line with
words before it, if there is a command on that, and leave it out otherwise. Then the console and the
files come to the same, apart from what is left on the line: the debugger, the output, the last
command and whether the console is to be left.

In particular the console keeps the command on the last line with words, if there is one on it. So a
line without words does again what that line would do, however its command ended, and it does
nothing but empty the line after a line that is no command, until there is one that is.

A line is submitted by pressing its characters and the enter key while the machine is paused. -/
theorem blank_line_repeats (turns : List Turn) (hlast : s.1.last = none) :
    (converse (spelledOut none turns) s).map apartFromLine
      = (converse turns s).map apartFromLine ∧
    (∀ s', converse turns s = some s' →
      s'.1.last = (turns.foldl remember none).bind commandOf? ∧
      ∀ blank, isBlankLine blank = true →
        respond s' (.line blank)
          = (repeated? (turns.foldl remember none)).elim (some (apartFromLine s'))
              fun r ↦ respond s' (.line r)) ∧
    ∀ (c : Console) (files : σ), c.debugger.running = false → c.line = [] → ∀ now text,
      play (pressesOf now text) (c, files) = respond (c, files) (.line text) := by
  have hnone : s.1.Remembers none := ⟨hlast, nofun⟩
  refine ⟨converse_spelledOut hnone turns, fun s' hturns ↦ ?_,
    fun c files ↦ play_pressesOf⟩
  have hremembers := hnone.converse hturns
  exact ⟨hremembers.last, fun blank ↦ respond_of_blank hremembers⟩

/-- Two blank lines behind a command, one behind a line that is no command, and one behind a command
that fails because there is no such file. -/
def hesitant : List Turn :=
  [.line "set v0 7", .line "", .line " \t", .line "stop", .line "", .line "load nothing", .line " "]

theorem blank_line_repeats_hesitant :
    spelledOut none hesitant
        = [.line "set v0 7", .line "set v0 7", .line "set v0 7", .line "stop",
            .line "load nothing", .line "load nothing"] ∧
      (converse (spelledOut none hesitant) attended).map apartFromLine
        = (converse hesitant attended).map apartFromLine ∧
      ∃ s', converse hesitant attended = some s' ∧ s'.1.last = some (.load "nothing") := by
  obtain ⟨hsame, hkept, -⟩ := blank_line_repeats (s := attended) hesitant rfl
  obtain ⟨s', hs'⟩ : ∃ s', converse hesitant attended = some s' := ⟨_, rfl⟩
  refine ⟨by decide +kernel, hsame, s', hs', ?_⟩
  rw [(hkept s' hs').1]
  decide +kernel

end Console

end ChipEight
