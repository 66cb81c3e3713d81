import ChipEight.Debugger.Command
import ChipEight.Proofs.CommandLine.Filling
import ChipEight.Proofs.Text.Lower
import ChipEight.Proofs.Text.Numerals
import ChipEight.Text.Classes
import Mathlib.Data.List.Basic

/-!
# How commands are spelled

A command has many spellings. Its name may be short, a number is written in one way or another, what
to set may be in letters of either case, and operands at the end are left out if they are what is
taken for them anyway. `Command.Spells` says which words spell a command, without regard to how they
are read. `Command.Overflows` says the same of words that would spell a command but for a number
that does not fit.
-/

namespace ChipEight

/-!
## Lines that words are laid out on

There may be any blanks before, between and after the words of a line. They are not told apart when
the line is cut into words again, as long as there is one of them between two words.
-/

/-- Characters that are all blank, or none at all. -/
def IsGap (cs : List Char) : Prop := ∀ c ∈ cs, isBlank c = true

/-- A word that stays whole on a line: it is not empty and has no blank in it. -/
def IsWord (w : String) : Prop := w.toList ≠ [] ∧ ∀ c ∈ w.toList, isBlank c = false

instance (cs : List Char) : Decidable (IsGap cs) :=
  decidable_of_iff (cs.all isBlank = true) List.all_eq_true

instance (w : String) : Decidable (IsWord w) :=
  decidable_of_iff (w.toList ≠ [] ∧ (w.toList.all fun c ↦ !isBlank c) = true)
    (and_congr_right fun _ ↦ by simp)

/-- Words in order with blanks around them. What follows a word begins with a blank, unless it is
the end of the line. -/
inductive LaidOut : List String → List Char → Prop
  | nil {gap : List Char} (hgap : IsGap gap) : LaidOut [] gap
  | cons {gap rest : List Char} {w : String} {ws : List String} (hgap : IsGap gap)
      (hrest : LaidOut ws rest) (happart : rest.head?.all isBlank = true) :
      LaidOut (w :: ws) (gap ++ w.toList ++ rest)

section

variable {cs gap rest word : List Char} {w : String} {ws : List String}

theorem wordsFrom_gap (h : IsGap gap) (rest : List Char) :
    wordsFrom [] (gap ++ rest) = wordsFrom [] rest := by
  induction gap with
  | nil => rfl
  | cons c gap ih =>
    obtain ⟨hc, hgap⟩ := List.forall_mem_cons.mp h
    rw [List.cons_append, wordsFrom, if_pos hc, List.isEmpty_nil, if_pos rfl, ih hgap]

theorem wordsFrom_append (h : ∀ c ∈ cs, isBlank c = false) (word rest : List Char) :
    wordsFrom word (cs ++ rest) = wordsFrom (word ++ cs) rest := by
  induction cs generalizing word with
  | nil => rw [List.nil_append, List.append_nil]
  | cons c cs ih =>
    obtain ⟨hc, hcs⟩ := List.forall_mem_cons.mp h
    rw [List.cons_append, wordsFrom, hc, if_neg Bool.false_ne_true, ih hcs, List.append_assoc,
      List.singleton_append]

/-- A word ends at a blank or at the end of the line. -/
theorem wordsFrom_of_head (hword : word ≠ []) (h : rest.head?.all isBlank = true) :
    wordsFrom word rest = word :: wordsFrom [] rest := by
  have hempty : word.isEmpty = false := List.isEmpty_eq_false_iff.mpr hword
  cases rest with
  | nil => rw [wordsFrom, hempty, if_neg Bool.false_ne_true]; rfl
  | cons c rest =>
    have hc : isBlank c = true := h
    rw [wordsFrom, if_pos hc, hempty, if_neg Bool.false_ne_true, wordsFrom, if_pos hc]
    rfl

theorem LaidOut.wordsFrom (h : LaidOut ws cs) (hws : ∀ w ∈ ws, IsWord w) :
    wordsFrom [] cs = ws.map String.toList := by
  induction h with
  | @nil gap hgap =>
    have hcut := wordsFrom_gap hgap []
    rw [List.append_nil] at hcut
    exact hcut
  | @cons gap rest w ws hgap hrest happart ih =>
    obtain ⟨⟨hw, hblank⟩, hws⟩ := List.forall_mem_cons.mp hws
    rw [List.append_assoc, wordsFrom_gap hgap, wordsFrom_append hblank, List.nil_append,
      wordsFrom_of_head hw happart, ih hws, List.map_cons]

theorem words_of_laidOut {line : String} (h : LaidOut ws line.toList) (hws : ∀ w ∈ ws, IsWord w) :
    words line = ws := by
  have htext : String.ofList ∘ String.toList = id := funext fun _ ↦ String.ofList_toList
  rw [words, h.wordsFrom hws, List.map_map, htext, List.map_id]

theorem exists_laidOut (ws : List String) : ∃ line : String, LaidOut ws line.toList := by
  have hspaced : ∃ cs, LaidOut ws cs ∧ cs.head?.all isBlank = true := by
    induction ws with
    | nil => exact ⟨[], .nil nofun, rfl⟩
    | cons w ws ih =>
      obtain ⟨rest, hrest, happart⟩ := ih
      have hspace : IsGap [' '] := by decide
      exact ⟨_, .cons hspace hrest happart, rfl⟩
  obtain ⟨cs, hcs, -⟩ := hspaced
  exact ⟨.ofList cs, String.toList_ofList ▸ hcs⟩

end

open CommandLine Whole

/-! ## Words behind a command -/

/-- A word that can stand behind a command: it stays whole on a line and is no option. -/
structure IsArgument (w : String) : Prop where
  word : IsWord w
  head_ne : ∀ c ∈ w.toList.head?, c ≠ '-'

theorem IsArgument.isOperand {w : String} (h : IsArgument w) : IsOperand w :=
  isOperand_of_head_ne h.head_ne

/-- Whether a character may be anywhere in a word behind a command. -/
def isArgumentChar (c : Char) : Bool := !isBlank c && c != '-'

theorem isArgument_of_chars {w : String} (hw : w.toList ≠ [])
    (h : ∀ c ∈ w.toList, isArgumentChar c = true) : IsArgument w := by
  simp only [isArgumentChar, Bool.and_eq_true, Bool.not_eq_true', bne_iff_ne] at h
  exact ⟨⟨hw, fun c hc ↦ (h c hc).1⟩, fun c hc ↦ (h c (List.mem_of_mem_head? hc)).2⟩

theorem isArgument_of_writes {n : ℕ} {w : String} (h : Writes n w.toList) : IsArgument w := by
  refine isArgument_of_chars h.ne_nil fun c hc ↦ ?_
  have hchars : ('x' :: 'X' :: '+' :: digitChars).all isArgumentChar = true := by decide
  exact List.all_eq_true.mp hchars c (h.mem_chars hc)

/-! ## What to set -/

/-- Characters are given letters, each in either case. -/
def InAnyCase (letters cs : List Char) : Prop :=
  List.Forall₂ (fun letter c ↦ c = letter ∨ c = letter.toUpper) letters cs

/-- Whether a character is what its upper and lower case go back to. -/
def isLowerLetter (c : Char) : Bool := c.toLower == c && c.toUpper.toLower == c

theorem InAnyCase.toLower {letters cs : List Char}
    (hletters : ∀ letter ∈ letters, isLowerLetter letter = true) (h : InAnyCase letters cs) :
    cs.map Char.toLower = letters := by
  induction h with
  | nil => rfl
  | cons hc h ih =>
    obtain ⟨hletter, hletters⟩ := List.forall_mem_cons.mp hletters
    simp only [isLowerLetter, Bool.and_eq_true, beq_iff_eq] at hletter
    obtain ⟨hlower, hupper⟩ := hletter
    rw [List.map_cons, ih hletters]
    rcases hc with rfl | rfl
    · rw [hlower]
    · rw [hupper]

theorem inAnyCase_toLower (cs : List Char) : InAnyCase (cs.map Char.toLower) cs :=
  List.forall₂_map_left_iff.mpr (List.forall₂_same.mpr fun c _ ↦ eq_toLower_or_eq_toUpper c)

theorem InAnyCase.mem {letters cs : List Char} {c : Char} (h : InAnyCase letters cs)
    (hc : c ∈ cs) : c ∈ letters ++ letters.map Char.toUpper := by
  obtain ⟨letter, hletter, hcase⟩ : ∃ letter ∈ letters, c = letter ∨ c = letter.toUpper := by
    induction h with
    | nil => cases hc
    | cons hfirst h ih =>
      rcases List.mem_cons.mp hc with rfl | hc
      · exact ⟨_, .head _, hfirst⟩
      · obtain ⟨letter, hletter, hcase⟩ := ih hc
        exact ⟨letter, .tail _ hletter, hcase⟩
  rcases hcase with rfl | rfl
  · exact List.mem_append_left _ hletter
  · exact List.mem_append_right _ (List.mem_map_of_mem hletter)

namespace Target

/-- What can be set besides registers, by its names. -/
def namesOf : List (Target × List Char) :=
  [(.index, "i".toList), (.index, "index".toList), (.pc, "pc".toList), (.delay, "dt".toList),
    (.sound, "st".toList)]

/-- A word spells what to set: a register by `v` and its number in hexadecimal, or anything else by
one of its names. -/
inductive Spells : Target → String → Prop
  | register {x : Nibble} {v : Char} {digits : List Char} {word : String} (hv : v = 'v' ∨ v = 'V')
      (hword : word.toList = v :: digits) (h : IsSigned 16 x.val digits) : Spells (.v x) word
  | named {t : Target} {letters : List Char} {word : String} (ht : (t, letters) ∈ namesOf)
      (h : InAnyCase letters word.toList) : Spells t word

/-- The characters that can occur in a name of what to set. -/
def nameChars : List Char := "+vVindexpctsINDEXPCTS".toList ++ digitChars

variable {t : Target} {word : String} {c : Char}

theorem Spells.ne_nil (h : t.Spells word) : word.toList ≠ [] := by
  cases h with
  | register hv hword h => simp [hword]
  | @named _ letters _ ht h =>
    have hne : ∀ name ∈ namesOf, name.2 ≠ [] := by decide
    intro hnil
    rw [hnil] at h
    cases h
    exact hne _ ht rfl

theorem Spells.mem_nameChars (h : t.Spells word) (hc : c ∈ word.toList) : c ∈ nameChars := by
  cases h with
  | @register x v digits _ hv hword h =>
    have hdigits : ('+' :: digitChars).all (nameChars.contains ·) = true := by decide
    rw [hword] at hc
    rcases List.mem_cons.mp hc with rfl | hc
    · rcases hv with rfl | rfl <;> decide
    · have hmem := List.all_eq_true.mp hdigits c (h.mem_chars (by decide) hc)
      exact List.contains_iff_mem.mp hmem
  | @named _ letters _ ht h =>
    have hnames : ∀ name ∈ namesOf,
        (name.2 ++ name.2.map Char.toUpper).all (nameChars.contains ·) = true := by
      decide
    exact List.contains_iff_mem.mp (List.all_eq_true.mp (hnames _ ht) c (h.mem hc))

theorem Spells.isArgument (h : t.Spells word) : IsArgument word := by
  have hall : nameChars.all isArgumentChar = true := by decide
  exact isArgument_of_chars h.ne_nil fun c hc ↦ List.all_eq_true.mp hall c (h.mem_nameChars hc)

theorem Spells.isAscii (h : t.Spells word) : ∀ c ∈ word.toList, isAscii c = true := by
  have hall : nameChars.all ChipEight.isAscii = true := by decide
  exact fun c hc ↦ List.all_eq_true.mp hall c (h.mem_nameChars hc)

theorem ofLetters_of_spells (h : t.Spells word) {letters : List Char}
    (hletters : LowerCased word.toList letters) (s : String) : ofLetters s letters = .ok t := by
  rw [hletters.eq_map_of_isAscii h.isAscii]
  cases h with
  | @register x v digits _ hv hword h =>
    have hlower : word.toList.map Char.toLower = 'v' :: digits.map Char.toLower := by
      rw [hword, List.map_cons]
      rcases hv with rfl | rfl
      · rfl
      · rfl
    have hbelow : x.val < 256 := Nat.lt_trans x.lt (by decide)
    have hnumber : Whole.ofDigits 16 256 (digits.map Char.toLower) = .ok x.val :=
      (ofDigits_eq_ok_iff (by decide) (by decide)).mpr ⟨h.toLower (by decide), hbelow⟩
    rw [hlower]
    simp [ofLetters, hnumber]
  | @named _ letters _ ht h =>
    have hsmall : ∀ name ∈ namesOf, name.2.all isLowerLetter = true := by decide
    rw [h.toLower (List.all_eq_true.mp (hsmall _ ht))]
    simp only [namesOf, List.mem_cons, Prod.mk.injEq, List.not_mem_nil, or_false] at ht
    rcases ht with ⟨rfl, rfl⟩ | ⟨rfl, rfl⟩ | ⟨rfl, rfl⟩ | ⟨rfl, rfl⟩ | ⟨rfl, rfl⟩
    all_goals rfl

theorem ofText_of_spells (h : t.Spells word) : ofText word = .ok t :=
  ofLetters_of_spells h (lowerCased_lowered word.toList) word

theorem exists_spells (t : Target) : ∃ word, t.Spells word := by
  have hnamed : ∀ name ∈ namesOf, ∃ word, Spells name.1 word := by
    intro name hname
    refine ⟨.ofList name.2, .named hname ?_⟩
    rw [String.toList_ofList]
    exact List.forall₂_same.mpr fun _ _ ↦ .inl rfl
  cases t with
  | v x =>
    have hdigit : IsNumeral 16 x.val [Nat.digitChar x.val] :=
      ⟨by simp, [x.val], .cons ⟨x.lt, .inl rfl⟩ .nil, by simp⟩
    exact ⟨.ofList ['v', Nat.digitChar x.val],
      .register (.inl rfl) String.toList_ofList (.inl hdigit)⟩
  | index => exact hnamed (.index, "index".toList) (.tail _ (.head _))
  | pc => exact hnamed (.pc, "pc".toList) (.tail _ (.tail _ (.head _)))
  | delay => exact hnamed (.delay, "dt".toList) (.tail _ (.tail _ (.tail _ (.head _))))
  | sound => exact hnamed (.sound, "st".toList) (.tail _ (.tail _ (.tail _ (.tail _ (.head _)))))

end Target

/-! ## Commands -/

/-- What is set behind a breakpoint action. -/
inductive BreakpointAction.Spells : BreakpointAction → List String → Prop
  | set {name word : String} {a : UInt16} (hname : name ∈ ["set", "s"])
      (ha : Writes a.toNat word.toList) : Spells (.set a) [name, word]
  | clear {name word : String} {a : UInt16} (hname : name ∈ ["clear", "c"])
      (ha : Writes a.toNat word.toList) : Spells (.clear a) [name, word]
  | list {name : String} (hname : name ∈ ["list", "l"]) : Spells .list [name]
  | clearAll {name : String} (hname : name ∈ ["clear-all", "ca"]) : Spells .clearAll [name]

/-- Words spell a start and a length. Those at the end may be left out if they are what is taken
for them anyway. -/
inductive SpellsRange (usual : UInt16) : UInt16 → UInt16 → List String → Prop
  | both {start length : UInt16} {first second : String} (hstart : Writes start.toNat first.toList)
      (hlength : Writes length.toNat second.toList) :
      SpellsRange usual start length [first, second]
  | start {start : UInt16} {word : String} (hstart : Writes start.toNat word.toList) :
      SpellsRange usual start usual [word]
  | neither : SpellsRange usual 0x200 usual []

/-- Words spell a command. -/
inductive Command.Spells : Command → List String → Prop
  | run {name : String} (hname : name ∈ ["run", "r"]) : Spells .run [name]
  | pause {name : String} (hname : name ∈ ["pause", "p"]) : Spells .pause [name]
  | step {name word : String} {count : UInt32} (hname : name ∈ ["step", "s"])
      (hcount : Writes count.toNat word.toList) : Spells (.step count) [name, word]
  | stepOnce {name : String} (hname : name ∈ ["step", "s"]) : Spells (.step 1) [name]
  | breakpoint {name : String} {ws : List String} {action : BreakpointAction}
      (hname : name ∈ ["breakpoint", "b"]) (haction : action.Spells ws) :
      Spells (.breakpoint action) (name :: ws)
  | set {first second : String} {target : Target} {value : UInt16} (htarget : target.Spells first)
      (hvalue : Writes value.toNat second.toList) :
      Spells (.set target value) ["set", first, second]
  | memory {name : String} {ws : List String} {start length : UInt16} (hname : name ∈ ["mem", "m"])
      (hrange : SpellsRange 64 start length ws) : Spells (.memory start length) (name :: ws)
  | disassemble {name : String} {ws : List String} {start length : UInt16}
      (hname : name ∈ ["disasm", "d"]) (hrange : SpellsRange 16 start length ws) :
      Spells (.disassemble start length) (name :: ws)
  | reset : Spells .reset ["reset"]
  | save {path : String} (hpath : IsArgument path) : Spells (.save path) ["save", path]
  | load {path : String} (hpath : IsArgument path) : Spells (.load path) ["load", path]
  | quit {name : String} (hname : name ∈ ["quit", "q"]) : Spells .quit [name]

/-- Words that would spell a command if the number that one of them writes, the first of those that
do not fit, fitted its type. The label is that of the number. -/
inductive Command.Overflows : List String → String → String → Prop
  | step {name word : String} {n : ℕ} (hname : name ∈ ["step", "s"]) (hn : Writes n word.toList)
      (hlarge : 2 ^ 32 ≤ n) : Overflows [name, word] word "[COUNT]"
  | breakpoint {name action word : String} {n : ℕ} (hname : name ∈ ["breakpoint", "b"])
      (haction : action ∈ ["set", "s", "clear", "c"]) (hn : Writes n word.toList)
      (hlarge : 2 ^ 16 ≤ n) : Overflows [name, action, word] word "<ADDR>"
  | set {first word : String} {target : Target} {n : ℕ} (htarget : target.Spells first)
      (hn : Writes n word.toList) (hlarge : 2 ^ 16 ≤ n) :
      Overflows ["set", first, word] word "<VALUE>"
  | start {name word : String} {n : ℕ} (hname : name ∈ ["mem", "m", "disasm", "d"])
      (hn : Writes n word.toList) (hlarge : 2 ^ 16 ≤ n) :
      Overflows [name, word] word "[START]"
  | startOfRange {name word second : String} {n k : ℕ} (hname : name ∈ ["mem", "m", "disasm", "d"])
      (hn : Writes n word.toList) (hlarge : 2 ^ 16 ≤ n) (hk : Writes k second.toList) :
      Overflows [name, word, second] word "[START]"
  | length {name first word : String} {start : UInt16} {n : ℕ}
      (hname : name ∈ ["mem", "m", "disasm", "d"]) (hstart : Writes start.toNat first.toList)
      (hn : Writes n word.toList) (hlarge : 2 ^ 16 ≤ n) :
      Overflows [name, first, word] word "[LEN]"

namespace Command

theorem exists_writes (n : ℕ) : ∃ word : String, Writes n word.toList := by
  obtain ⟨cs, hcs⟩ := Whole.exists_writes n
  exact ⟨.ofList cs, String.toList_ofList ▸ hcs⟩

/-- Every command has a spelling, unless it is about a path that cannot be a word. -/
theorem exists_spells {c : Command}
    (hpath : ∀ path, c = .save path ∨ c = .load path → IsArgument path) : ∃ ws, c.Spells ws := by
  cases c with
  | run => exact ⟨_, .run (.head _)⟩
  | pause => exact ⟨_, .pause (.head _)⟩
  | step count =>
    obtain ⟨word, hword⟩ := exists_writes count.toNat
    exact ⟨_, .step (.head _) hword⟩
  | breakpoint action =>
    obtain ⟨ws, hws⟩ : ∃ ws, action.Spells ws := by
      cases action with
      | set address =>
        obtain ⟨word, hword⟩ := exists_writes address.toNat
        exact ⟨_, .set (.head _) hword⟩
      | clear address =>
        obtain ⟨word, hword⟩ := exists_writes address.toNat
        exact ⟨_, .clear (.head _) hword⟩
      | list => exact ⟨_, .list (.head _)⟩
      | clearAll => exact ⟨_, .clearAll (.head _)⟩
    exact ⟨_, .breakpoint (.head _) hws⟩
  | set target value =>
    obtain ⟨first, hfirst⟩ := target.exists_spells
    obtain ⟨second, hsecond⟩ := exists_writes value.toNat
    exact ⟨_, .set hfirst hsecond⟩
  | memory start length =>
    obtain ⟨first, hfirst⟩ := exists_writes start.toNat
    obtain ⟨second, hsecond⟩ := exists_writes length.toNat
    exact ⟨_, .memory (.head _) (.both hfirst hsecond)⟩
  | disassemble start length =>
    obtain ⟨first, hfirst⟩ := exists_writes start.toNat
    obtain ⟨second, hsecond⟩ := exists_writes length.toNat
    exact ⟨_, .disassemble (.head _) (.both hfirst hsecond)⟩
  | reset => exact ⟨_, .reset⟩
  | save path => exact ⟨_, .save (hpath path (.inl rfl))⟩
  | load path => exact ⟨_, .load (hpath path (.inr rfl))⟩
  | quit => exact ⟨_, .quit (.head _)⟩

end Command

end ChipEight
