import ChipEight.Proofs.Debugger.Spellings

/-!
# Every command can be typed

Whatever spells a command is read as that command, however it is laid out on a line. Two things make
it so. No name is given to two members of the same family, though `s` is one thing behind
`breakpoint` and another in front. And a number is never cut to its type: what does not fit is
refused.

Reading goes from the outside to the inside. The blanks of a line do not matter, its first word
finds a command, and the words behind it fill the slots of the command in order.
-/

namespace ChipEight

open CommandLine Whole

theorem forall_mem_pair {P : String → Prop} {first second : String} (hfirst : P first)
    (hsecond : P second) : ∀ w ∈ [first, second], P w :=
  List.forall_mem_cons.mpr ⟨hfirst, List.forall_mem_singleton.mpr hsecond⟩

namespace Command

/-! ## Finding the command -/

theorem names_nodup : (all.flatMap (·.1)).Nodup := by decide

theorem actions_nodup : (actions.flatMap (·.1)).Nodup := by decide

/-- The name of a command stays what it is when it is taken for the name of a program file. -/
theorem callWords_of_name {name : String} (h : name ∈ all.flatMap (·.1)) (args : List String) :
    callWords (name :: args) = name :: args := by
  have hnames : ∀ name ∈ all.flatMap (·.1),
      Path.fileName? name = some name ∧ Path.stem name = name := by
    decide
  obtain ⟨hfile, hstem⟩ := hnames name h
  simp only [callWords, hfile, hstem]

/-! ## Filling slots -/

section Slots

variable {σ : Type} {label word : String} {bound n : ℕ} {slots : List (Slot σ)}
  {words : List String} {s : σ}

theorem fill_number {put : ℕ → σ → σ} (h : Writes n word.toList) (hn : n < bound) :
    fill (number label bound put :: slots) (word :: words) s = fill slots words (put n s) := by
  refine fill_of_read ?_ slots words
  have hliteral := (ofLiteral_eq_ok_iff (Nat.zero_lt_of_lt hn)).mpr ⟨h, hn⟩
  simp only [number, hliteral]

/-- A number that does not fit is refused and not cut off. -/
theorem fill_tooLarge {put : ℕ → σ → σ} (h : Writes n word.toList) (hbound : 0 < bound)
    (hn : bound ≤ n) :
    fill (number label bound put :: slots) (word :: words) s =
      .error (.invalidValue word label Fault.tooLarge.message) := by
  refine fill_of_refusal ?_ slots words
  have hliteral := h.ofLiteral hbound
  rw [if_neg (Nat.not_lt.mpr hn)] at hliteral
  simp only [number, hliteral]

theorem fill_shortNumber {put : UInt16 → σ → σ} {a : UInt16} (h : Writes a.toNat word.toList) :
    fill (shortNumber label put :: slots) (word :: words) s = fill slots words (put a s) := by
  rw [shortNumber, fill_number h a.toNat_lt, UInt16.ofNat_toNat]

theorem fill_target {put : Target → σ → σ} {t : Target} (h : t.Spells word) :
    fill (target label put :: slots) (word :: words) s = fill slots words (put t s) := by
  refine fill_of_read ?_ slots words
  simp only [target, Target.ofText_of_spells h]

theorem fill_path {put : String → σ → σ} (h : IsArgument word) :
    fill (path label put :: slots) (word :: words) s = fill slots words (put word s) := by
  refine fill_of_read (if_neg ?_) slots words
  rintro rfl
  exact h.word.1 rfl

end Slots

/-! ## Reading the words behind a name -/

section Operands

variable {make : UInt16 → Command} {span : UInt16 → UInt16 → Command}
  {a usual start length : UInt16} {first second word : String} {words : List String} {n k : ℕ}

theorem isOperand_of_writes (h : Writes n word.toList) : IsOperand word :=
  (isArgument_of_writes h).isOperand

theorem parse_alone (c : Command) : (alone c).parse [] = .ok c := rfl

theorem parse_onAddress (h : Writes a.toNat word.toList) :
    (onAddress make).parse [word] = .ok (make a) :=
  parse_of_fill (List.forall_mem_singleton.mpr (isOperand_of_writes h)) (Nat.le_refl 1)
    (List.nodup_singleton _) (fill_shortNumber h) rfl

theorem parse_onAddress_tooLarge (h : Writes n word.toList) (hn : 2 ^ 16 ≤ n) :
    (onAddress make).parse [word] = .error (.invalidValue word "<ADDR>" Fault.tooLarge.message) :=
  parse_of_fill_error (List.forall_mem_singleton.mpr (isOperand_of_writes h)) (Nat.le_refl 1)
    (List.nodup_singleton _) (fill_tooLarge h (by decide) hn)

theorem parse_onPath {make : String → Command} (h : IsArgument word) :
    (onPath make).parse [word] = .ok (make word) :=
  parse_of_fill (List.forall_mem_singleton.mpr h.isOperand) (Nat.le_refl 1)
    (List.nodup_singleton _) (fill_path h) rfl

theorem parse_stepping {count : UInt32} (h : Writes count.toNat word.toList) :
    stepping.parse [word] = .ok (.step count) := by
  refine parse_of_fill (List.forall_mem_singleton.mpr (isOperand_of_writes h)) (Nat.le_refl 1)
    (List.nodup_singleton _) (fill_number h count.toNat_lt) ?_
  simp

theorem parse_stepping_tooLarge (h : Writes n word.toList) (hn : 2 ^ 32 ≤ n) :
    stepping.parse [word] = .error (.invalidValue word "[COUNT]" Fault.tooLarge.message) :=
  parse_of_fill_error (List.forall_mem_singleton.mpr (isOperand_of_writes h)) (Nat.le_refl 1)
    (List.nodup_singleton _) (fill_tooLarge h (by decide) hn)

theorem parse_setting {t : Target} (hfirst : t.Spells first)
    (hsecond : Writes a.toNat second.toList) :
    setting.parse [first, second] = .ok (.set t a) := by
  refine parse_of_fill (forall_mem_pair hfirst.isArgument.isOperand (isOperand_of_writes hsecond))
    (Nat.le_refl 2) (by decide) ((fill_target hfirst).trans (fill_shortNumber hsecond)) rfl

theorem parse_setting_tooLarge {t : Target} (hfirst : t.Spells first)
    (hsecond : Writes n second.toList) (hn : 2 ^ 16 ≤ n) :
    setting.parse [first, second] =
      .error (.invalidValue second "<VALUE>" Fault.tooLarge.message) :=
  parse_of_fill_error
    (forall_mem_pair hfirst.isArgument.isOperand (isOperand_of_writes hsecond))
    (Nat.le_refl 2) (by decide)
    ((fill_target hfirst).trans (fill_tooLarge hsecond (by decide) hn))

theorem rangeLabels_nodup : ["[START]", "[LEN]"].Nodup := by decide

theorem parse_onRange (h : SpellsRange usual start length words) :
    (onRange span usual).parse words = .ok (span start length) := by
  cases h with
  | both hstart hlength =>
    exact parse_of_fill (forall_mem_pair (isOperand_of_writes hstart) (isOperand_of_writes hlength))
      (Nat.le_refl 2) rangeLabels_nodup
      ((fill_shortNumber hstart).trans (fill_shortNumber hlength)) rfl
  | start hstart =>
    exact parse_of_fill (List.forall_mem_singleton.mpr (isOperand_of_writes hstart))
      (Nat.le_succ 1) rangeLabels_nodup (fill_shortNumber hstart) rfl
  | neither => rfl

theorem parse_onRange_tooLarge (hfirst : Writes n first.toList) (hn : 2 ^ 16 ≤ n)
    (hroom : words.length ≤ 1) (hwords : ∀ w ∈ words, IsOperand w) :
    (onRange span usual).parse (first :: words) =
      .error (.invalidValue first "[START]" Fault.tooLarge.message) :=
  parse_of_fill_error (List.forall_mem_cons.mpr ⟨isOperand_of_writes hfirst, hwords⟩)
    (Nat.succ_le_succ hroom) rangeLabels_nodup (fill_tooLarge hfirst (by decide) hn)

theorem parse_onRange_lengthTooLarge (hfirst : Writes start.toNat first.toList)
    (hsecond : Writes n second.toList) (hn : 2 ^ 16 ≤ n) :
    (onRange span usual).parse [first, second] =
      .error (.invalidValue second "[LEN]" Fault.tooLarge.message) :=
  parse_of_fill_error (forall_mem_pair (isOperand_of_writes hfirst) (isOperand_of_writes hsecond))
    (Nat.le_refl 2) rangeLabels_nodup
    ((fill_shortNumber hfirst).trans (fill_tooLarge hsecond (by decide) hn))

end Operands

/-! ## Whole lines -/

/-- Words keep apart on a line, and reading them has a given result. -/
structure Reads (ws : List String) (result : Except UsageFault Command) : Prop where
  isWord : ∀ w ∈ ws, IsWord w
  ofWords_eq : ofWords ws = result

variable {c : Command} {ws args : List String} {word label name line : String}
  {action : BreakpointAction} {result : Except UsageFault Command} {names : List String}
  {t : CommandTree Command}

theorem Reads.ofLine (h : Reads ws result) (hlaid : LaidOut ws line.toList) :
    Command.ofLine line = result := by
  rw [Command.ofLine, words_of_laidOut hlaid h.isWord, h.ofWords_eq]

theorem isWord_of_writes {n : ℕ} (h : Writes n word.toList) : IsWord word :=
  (isArgument_of_writes h).word

theorem reads_of_member (ht : (names, t) ∈ all) (hname : name ∈ names)
    (hargs : ∀ w ∈ args, IsWord w) (hparse : t.parse args = result) :
    Reads (name :: args) result := by
  have hmem : name ∈ all.flatMap (·.1) := List.mem_flatMap.mpr ⟨_, ht, hname⟩
  have hwords : ∀ name ∈ all.flatMap (·.1), IsWord name := by decide
  refine ⟨List.forall_mem_cons.mpr ⟨hwords name hmem, hargs⟩, ?_⟩
  rw [ofWords, callWords_of_name hmem, CommandTree.parse_member false names_nodup ht hname, hparse]

theorem reads_alone (ht : (names, alone c) ∈ all) (hname : name ∈ names) :
    Reads [name] (.ok c) :=
  reads_of_member ht hname nofun (parse_alone c)

theorem reads_of_action {first : String} (hfirst : first ∈ ["breakpoint", "b"])
    (ht : (names, t) ∈ actions) (hname : name ∈ names) (hargs : ∀ w ∈ args, IsWord w)
    (hparse : t.parse args = result) : Reads (first :: name :: args) result := by
  have hwords : ∀ name ∈ actions.flatMap (·.1), IsWord name := by decide
  have hword : IsWord name := hwords name (List.mem_flatMap.mpr ⟨_, ht, hname⟩)
  refine reads_of_member (t := .family true actions) (by simp [all]) hfirst
    (List.forall_mem_cons.mpr ⟨hword, hargs⟩) ?_
  rw [CommandTree.parse_member true actions_nodup ht hname, hparse]

theorem isWord_of_spellsRange {usual start length : UInt16}
    (h : SpellsRange usual start length ws) : ∀ w ∈ ws, IsWord w := by
  cases h with
  | both hstart hlength =>
    exact forall_mem_pair (isWord_of_writes hstart) (isWord_of_writes hlength)
  | start hstart => exact List.forall_mem_singleton.mpr (isWord_of_writes hstart)
  | neither => exact nofun

theorem reads_of_actionSpells {first : String} (hfirst : first ∈ ["breakpoint", "b"])
    (h : action.Spells ws) : Reads (first :: ws) (.ok (.breakpoint action)) := by
  cases h with
  | set hname ha =>
    exact reads_of_action (t := onAddress fun a ↦ .breakpoint (.set a)) hfirst (by simp [actions])
      hname (List.forall_mem_singleton.mpr (isWord_of_writes ha)) (parse_onAddress ha)
  | clear hname ha =>
    exact reads_of_action (t := onAddress fun a ↦ .breakpoint (.clear a)) hfirst
      (by simp [actions]) hname (List.forall_mem_singleton.mpr (isWord_of_writes ha))
      (parse_onAddress ha)
  | list hname => exact reads_of_action hfirst (by simp [actions]) hname nofun (parse_alone _)
  | clearAll hname => exact reads_of_action hfirst (by simp [actions]) hname nofun (parse_alone _)

theorem reads_of_spells (h : c.Spells ws) : Reads ws (.ok c) := by
  cases h with
  | run hname => exact reads_alone (by simp [all]) hname
  | pause hname => exact reads_alone (by simp [all]) hname
  | step hname hcount =>
    exact reads_of_member (t := stepping) (by simp [all]) hname
      (List.forall_mem_singleton.mpr (isWord_of_writes hcount)) (parse_stepping hcount)
  | stepOnce hname =>
    exact reads_of_member (t := stepping) (by simp [all]) hname nofun rfl
  | breakpoint hname haction => exact reads_of_actionSpells hname haction
  | set htarget hvalue =>
    exact reads_of_member (show (["set"], setting) ∈ all by simp [all]) (.head _)
      (forall_mem_pair htarget.isArgument.word (isWord_of_writes hvalue))
      (parse_setting htarget hvalue)
  | memory hname hrange =>
    exact reads_of_member (t := onRange .memory defaultBytes) (by simp [all]) hname
      (isWord_of_spellsRange hrange) (parse_onRange hrange)
  | disassemble hname hrange =>
    exact reads_of_member (t := onRange .disassemble defaultInstructions) (by simp [all]) hname
      (isWord_of_spellsRange hrange) (parse_onRange hrange)
  | reset => exact reads_alone (show (["reset"], alone .reset) ∈ all by simp [all]) (.head _)
  | save hpath =>
    exact reads_of_member (show (["save"], onPath .save) ∈ all by simp [all]) (.head _)
      (List.forall_mem_singleton.mpr hpath.word) (parse_onPath hpath)
  | load hpath =>
    exact reads_of_member (show (["load"], onPath .load) ∈ all by simp [all]) (.head _)
      (List.forall_mem_singleton.mpr hpath.word) (parse_onPath hpath)
  | quit hname => exact reads_alone (by simp [all]) hname

/-- The commands on ranges of memory read the words behind them alike. -/
theorem exists_onRange (hname : name ∈ ["mem", "m", "disasm", "d"]) :
    ∃ names span usual, (names, onRange span usual) ∈ all ∧ name ∈ names := by
  simp only [List.mem_cons, List.not_mem_nil, or_false] at hname
  rcases hname with rfl | rfl | rfl | rfl
  · exact ⟨["mem", "m"], .memory, defaultBytes, by simp [all], .head _⟩
  · exact ⟨["mem", "m"], .memory, defaultBytes, by simp [all], .tail _ (.head _)⟩
  · exact ⟨["disasm", "d"], .disassemble, defaultInstructions, by simp [all], .head _⟩
  · exact ⟨["disasm", "d"], .disassemble, defaultInstructions, by simp [all], .tail _ (.head _)⟩

theorem exists_onAddress (hname : name ∈ ["set", "s", "clear", "c"]) :
    ∃ names make, (names, onAddress make) ∈ actions ∧ name ∈ names := by
  simp only [List.mem_cons, List.not_mem_nil, or_false] at hname
  rcases hname with rfl | rfl | rfl | rfl
  · exact ⟨["set", "s"], fun a ↦ .breakpoint (.set a), by simp [actions], .head _⟩
  · exact ⟨["set", "s"], fun a ↦ .breakpoint (.set a), by simp [actions], .tail _ (.head _)⟩
  · exact ⟨["clear", "c"], fun a ↦ .breakpoint (.clear a), by simp [actions], .head _⟩
  · exact ⟨["clear", "c"], fun a ↦ .breakpoint (.clear a), by simp [actions], .tail _ (.head _)⟩

theorem reads_of_overflows (h : Overflows ws word label) :
    Reads ws (.error (.invalidValue word label Fault.tooLarge.message)) := by
  cases h with
  | step hname hn hlarge =>
    exact reads_of_member (t := stepping) (by simp [all]) hname
      (List.forall_mem_singleton.mpr (isWord_of_writes hn)) (parse_stepping_tooLarge hn hlarge)
  | breakpoint hname haction hn hlarge =>
    obtain ⟨names, make, ht, haction⟩ := exists_onAddress haction
    exact reads_of_action hname ht haction (List.forall_mem_singleton.mpr (isWord_of_writes hn))
      (parse_onAddress_tooLarge hn hlarge)
  | set htarget hn hlarge =>
    exact reads_of_member (show (["set"], setting) ∈ all by simp [all]) (.head _)
      (forall_mem_pair htarget.isArgument.word (isWord_of_writes hn))
      (parse_setting_tooLarge htarget hn hlarge)
  | start hname hn hlarge =>
    obtain ⟨names, span, usual, ht, hname⟩ := exists_onRange hname
    exact reads_of_member ht hname (List.forall_mem_singleton.mpr (isWord_of_writes hn))
      (parse_onRange_tooLarge hn hlarge (Nat.zero_le 1) nofun)
  | startOfRange hname hn hlarge hk =>
    obtain ⟨names, span, usual, ht, hname⟩ := exists_onRange hname
    exact reads_of_member ht hname (forall_mem_pair (isWord_of_writes hn) (isWord_of_writes hk))
      (parse_onRange_tooLarge hn hlarge (Nat.le_refl 1)
        (List.forall_mem_singleton.mpr (isOperand_of_writes hk)))
  | length hname hstart hn hlarge =>
    obtain ⟨names, span, usual, ht, hname⟩ := exists_onRange hname
    exact reads_of_member ht hname (forall_mem_pair (isWord_of_writes hstart) (isWord_of_writes hn))
      (parse_onRange_lengthTooLarge hstart hn hlarge)

/-- **Every command can be typed.** Take any words that spell a command: any of its names, its
numbers written in decimal or in hexadecimal with zeros in front or a sign, what to set in letters
of either case, and operands at the end left out or not. However they are laid out on a line, with
any blanks before, between and after them, the line is read as that command. If a number is too
large for its type, the line is refused because of it. And every command can be spelled on a line,
if its path is not empty, has no blank in it and does not begin with `-`. -/
theorem ofLine_of_spelled :
    (∀ (c : Command) (ws : List String) (line : String), c.Spells ws → LaidOut ws line.toList →
      ofLine line = .ok c) ∧
    (∀ (ws : List String) (word label line : String), Overflows ws word label →
      LaidOut ws line.toList → ofLine line =
        .error (.invalidValue word label "number too large to fit in target type")) ∧
    ∀ c : Command, (∀ path, c = .save path ∨ c = .load path → IsArgument path) →
      ∃ (ws : List String) (line : String), c.Spells ws ∧ LaidOut ws line.toList := by
  refine ⟨fun c ws line hspells hlaid ↦ ?_, fun ws word label line hlarge hlaid ↦ ?_, ?_⟩
  · exact (reads_of_spells hspells).ofLine hlaid
  · exact (reads_of_overflows hlarge).ofLine hlaid
  · intro c hpath
    obtain ⟨ws, hws⟩ := exists_spells hpath
    obtain ⟨line, hline⟩ := exists_laidOut ws
    exact ⟨ws, line, hws, hline⟩

/-- A breakpoint is set with short names, a tab, a sign behind the mark and zeros; and one cycle
more than a number of cycles can be is refused. -/
theorem ofLine_of_spelled_breakpoint :
    ofLine "\tb  s 0X+02a0 " = .ok (.breakpoint (.set 0x2A0)) ∧
    ofLine "step 4294967296" = .error (.invalidValue "4294967296" "[COUNT]"
      "number too large to fit in target type") := by
  constructor
  · have hdigits : IsNumeral 16 0x2A0 "02a0".toList :=
      ⟨by decide, [0, 2, 10, 0], by simp [IsDigit], by decide⟩
    have hspells : Spells (.breakpoint (.set 0x2A0)) ["b", "s", "0X+02a0"] :=
      .breakpoint (.tail _ (.head _)) (.set (.tail _ (.head _))
        (.hexadecimal (.inr rfl) (by decide) (.inr ⟨"02a0".toList, rfl, hdigits⟩)))
    have hline : "\tb  s 0X+02a0 ".toList = "\t".toList ++ "b".toList ++ ("  ".toList ++
        "s".toList ++ (" ".toList ++ "0X+02a0".toList ++ " ".toList)) := by
      decide
    refine ofLine_of_spelled.1 _ _ _ hspells ?_
    rw [hline]
    exact .cons (by decide) (.cons (by decide +kernel) (.cons (by decide +kernel)
      (.nil (by decide)) (by decide +kernel)) (by decide +kernel)) (by decide +kernel)
  · have hdigits : IsNumeral 10 4294967296 "4294967296".toList :=
      ⟨by decide, [4, 2, 9, 4, 9, 6, 7, 2, 9, 6], by simp [IsDigit], by decide⟩
    have hline : "step 4294967296".toList =
        "".toList ++ "step".toList ++ (" ".toList ++ "4294967296".toList ++ "".toList) := by
      decide
    refine ofLine_of_spelled.2.1 _ _ _ _
      (.step (.head _) (.decimal (.inl hdigits)) (by decide)) ?_
    rw [hline]
    exact .cons (by decide) (.cons (by decide +kernel) (.nil (by decide +kernel))
      (by decide)) (by decide +kernel)

end Command

end ChipEight
