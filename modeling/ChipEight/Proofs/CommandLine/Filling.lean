import ChipEight.CommandLine
import Mathlib.Data.List.Nodup

/-!
# Lines of operands

A scan reads a value only when something follows it, so that of two faults the right one is
reported. When a line has operands only and no more of them than there are slots, this makes no
difference: the operands fill the slots one after the other, and `fill` says what comes of it. The
step is that a pending value may as well be read before the next word is looked at.

A family of commands finds a member by any of its names. No two members may share a name.
-/

namespace ChipEight

namespace CommandLine

variable {σ α : Type}

/-! ## Slots -/

/-- The settings after words have been read for slots, word by word. Slots for which there is no
word are left out. -/
def fill : List (Slot σ) → List String → σ → Except UsageFault σ
  | slot :: slots, word :: words, s => do fill slots words (← readFor slot.label slot.read word s)
  | _, _, s => .ok s

theorem fill_nil (slots : List (Slot σ)) (s : σ) : fill slots [] s = .ok s := by
  cases slots <;> rfl

section Reading

variable {slot : Slot σ} {word reason : String} {s next : σ}

theorem fill_of_read (h : slot.read word s = .ok next) (slots : List (Slot σ))
    (words : List String) : fill (slot :: slots) (word :: words) s = fill slots words next := by
  rw [fill, readFor, h]
  rfl

theorem fill_of_refusal (h : slot.read word s = .error (.because reason)) (slots : List (Slot σ))
    (words : List String) :
    fill (slot :: slots) (word :: words) s = .error (.invalidValue word slot.label reason) := by
  rw [fill, readFor, h]
  rfl

end Reading

/-- A word that is an operand wherever it stands before the separator. -/
def IsOperand (word : String) : Prop := Shape.ofWord word = .plain

theorem isOperand_of_head_ne {word : String} (h : ∀ c ∈ word.toList.head?, c ≠ '-') :
    IsOperand word := by
  rw [IsOperand, Shape.ofWord]
  cases hword : word.toList with
  | nil => rfl
  | cons c cs =>
    have hc : c ≠ '-' := h c (by rw [hword]; rfl)
    split
    · next heq => exact (hc (List.cons.inj heq).1).elim
    · next heq => exact (hc (List.cons.inj heq).1).elim
    · next heq => exact (hc (List.cons.inj heq).1).elim
    · rfl

/-! ## Scanning operands -/

section Scanning

variable {g : Grammar σ α} {p : Progress σ} {s : σ} {given : List String} {slots : List (Slot σ)}
  {label word value : String} {words : List String} {read : Reading σ} {fault : UsageFault} {a : α}

theorem scan_cons (hword : IsOperand word) (p : Progress σ) (words : List String) :
    g.scan false p (word :: words) = p.operand false word >>= fun p ↦ g.scan false p words := by
  have hplain : Shape.ofWord word = .plain := hword
  rw [Grammar.scan, Grammar.word, hplain]
  rfl

/-- A pending value may as well be read before the next operand is looked at. -/
theorem scan_pending (hfresh : label ∉ given) (hwords : ∀ w ∈ words, IsOperand w)
    (hroom : words.length ≤ slots.length) :
    g.scan false ⟨s, given, some ⟨label, read, some value⟩, slots⟩ words =
      readFor label read value s >>= fun s ↦
        g.scan false ⟨s, label :: given, none, slots⟩ words := by
  have hsettle : (⟨s, given, some ⟨label, read, some value⟩, slots⟩ : Progress σ).settle =
      (readFor label read value s).map fun s ↦ ⟨s, label :: given, none, slots⟩ := by
    change (if given.contains label then _ else _) = _
    rw [if_neg (by simpa using hfresh)]
  cases words with
  | nil =>
    rw [Grammar.scan, hsettle]
    cases readFor label read value s with
    | error fault => rfl
    | ok s => rfl
  | cons word words =>
    obtain ⟨hword, -⟩ := List.forall_mem_cons.mp hwords
    cases slots with
    | nil => simp at hroom
    | cons slot slots =>
      have hoperand : (⟨s, given, some ⟨label, read, some value⟩, slot :: slots⟩ :
          Progress σ).operand false word =
            (readFor label read value s).map fun s ↦
              ⟨s, label :: given, some ⟨slot.label, slot.read, some word⟩, slots⟩ := by
        change (Progress.settle _).map _ = _
        rw [hsettle]
        cases readFor label read value s with
        | error fault => rfl
        | ok s => rfl
      rw [scan_cons hword, hoperand]
      cases readFor label read value s with
      | error fault => rfl
      | ok s => exact (scan_cons hword ⟨s, label :: given, none, slot :: slots⟩ words).symm

theorem scan_eq_fill (hwords : ∀ w ∈ words, IsOperand w) (hroom : words.length ≤ slots.length)
    (hlabels : (slots.map (·.label)).Nodup) (hfresh : ∀ slot ∈ slots, slot.label ∉ given) :
    ∃ given', g.scan false ⟨s, given, none, slots⟩ words =
      (fill slots words s).map fun s ↦ ⟨s, given', none, slots.drop words.length⟩ := by
  induction words generalizing s given slots with
  | nil => exact ⟨given, by rw [fill_nil]; rfl⟩
  | cons word words ih =>
    obtain ⟨hword, hwords⟩ := List.forall_mem_cons.mp hwords
    cases slots with
    | nil => simp at hroom
    | cons slot slots =>
      obtain ⟨hslot, hslots⟩ := List.forall_mem_cons.mp hfresh
      obtain ⟨hother, hlabels⟩ := List.nodup_cons.mp hlabels
      have hroom : words.length ≤ slots.length := Nat.le_of_succ_le_succ hroom
      have hfresh : ∀ t ∈ slots, t.label ∉ slot.label :: given := by
        intro t ht hmem
        rcases List.mem_cons.mp hmem with hlabel | hgiven
        · exact hother (List.mem_map.mpr ⟨t, ht, hlabel⟩)
        · exact hslots t ht hgiven
      have hscan : g.scan false ⟨s, given, none, slot :: slots⟩ (word :: words) =
          readFor slot.label slot.read word s >>= fun s ↦
            g.scan false ⟨s, slot.label :: given, none, slots⟩ words := by
        rw [scan_cons hword]
        exact scan_pending hslot hwords hroom
      rw [hscan, fill]
      cases readFor slot.label slot.read word s with
      | error fault => exact ⟨[], rfl⟩
      | ok s =>
        obtain ⟨given', hrest⟩ := ih hwords hroom hlabels hfresh (s := s)
        exact ⟨given', hrest⟩

theorem parse_of_fill (hwords : ∀ w ∈ words, IsOperand w) (hroom : words.length ≤ g.slots.length)
    (hlabels : (g.slots.map (·.label)).Nodup) (hfill : fill g.slots words g.start = .ok s)
    (hfinish : g.finish s = some a) : g.parse words = .ok a := by
  obtain ⟨given, hscan⟩ := scan_eq_fill (g := g) (s := g.start) hwords hroom hlabels
    fun slot _ ↦ List.not_mem_nil (a := slot.label)
  rw [hfill] at hscan
  rw [Grammar.parse, hscan]
  simp only [Except.map, bind, Except.bind, hfinish]

theorem parse_of_fill_error (hwords : ∀ w ∈ words, IsOperand w)
    (hroom : words.length ≤ g.slots.length) (hlabels : (g.slots.map (·.label)).Nodup)
    (hfill : fill g.slots words g.start = .error fault) : g.parse words = .error fault := by
  obtain ⟨given, hscan⟩ := scan_eq_fill (g := g) (s := g.start) hwords hroom hlabels
    fun slot _ ↦ List.not_mem_nil (a := slot.label)
  rw [hfill] at hscan
  rw [Grammar.parse, hscan]
  rfl

end Scanning

/-! ## Families of commands -/

namespace CommandTree

variable {members : List (List String × CommandTree α)} {names : List String} {name : String}
  {t : CommandTree α}

/-- A member is found by each of its names, if no name is given to two members. -/
theorem member?_of_mem (hnames : (members.flatMap (·.1)).Nodup) (ht : (names, t) ∈ members)
    (hname : name ∈ names) : member? members name = some t := by
  have hfind : (members.find? fun m ↦ m.1.contains name) = some (names, t) := by
    induction members with
    | nil => cases ht
    | cons first rest ih =>
      rw [List.flatMap_cons] at hnames
      rcases List.mem_cons.mp ht with rfl | ht
      · exact List.find?_cons_of_pos (by simpa using hname)
      · have hfirst : name ∉ first.1 := by
          intro hmem
          refine (List.nodup_append.mp hnames).2.2 name hmem name ?_ rfl
          exact List.mem_flatMap.mpr ⟨_, ht, hname⟩
        rw [List.find?_cons_of_neg (by simpa using hfirst)]
        exact ih hnames.of_append_right ht
  rw [member?, hfind, Option.map_some]

theorem parse_member (answersHelp : Bool) (hnames : (members.flatMap (·.1)).Nodup)
    (ht : (names, t) ∈ members) (hname : name ∈ names) (words : List String) :
    (family answersHelp members).parse (name :: words) = t.parse words := by
  rw [parse, member?_of_mem hnames ht hname]

end CommandTree

end CommandLine

end ChipEight
