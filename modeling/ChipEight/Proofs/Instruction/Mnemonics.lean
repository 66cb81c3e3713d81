import ChipEight.Instruction
import ChipEight.Proofs.Debugger.Disassembly
import ChipEight.Proofs.Text.Numerals

/-!
# Mnemonics read back

Many instructions share a name. There are a dozen kinds of `LD`, and what tells them apart is the
kind of their operands: a register, a number, or something with a name of its own such as a timer.
`Instruction.assembly` is what a mnemonic says in these terms. This file gets it back from the text,
which is cut into words at commas and blanks, and then the instruction from it, as an assembler
would. Each mnemonic comes back as the instruction that it was written for, so no two instructions
have the same one.

An assembler would accept many texts for one instruction. `Instruction.ofMnemonic?` accepts just the
one that it is shown as.
-/

namespace ChipEight

open Whole

/-- What stands behind the name of an instruction. -/
inductive Operand where
  | register (x : Nibble)
  | number (n : ℕ)
  /-- A part of the machine, by its name. -/
  | part (name : String)
  deriving DecidableEq

namespace Operand

/-- Reads an operand. What is neither a register nor a number is a name. -/
def ofText (w : String) : Operand :=
  match w.toList with
  | ['V', c] => (digit? 16 c).elim (part w) fun d ↦ register (.ofNat d)
  | cs =>
    match ofLiteral 0x10000 cs with
    | .ok n => number n
    | .error _ => part w

end Operand

/-! ## Words -/

/-- A text that commas and blanks do not cut. -/
def IsSolid (w : String) : Prop := ∀ c ∈ w.toList, c ≠ ' ' ∧ c ≠ ','

instance (w : String) : Decidable (IsSolid w) :=
  decidable_of_iff (w.toList.all (fun c ↦ c != ' ' && c != ',') = true) (by simp [IsSolid])

/-- The words of a mnemonic, without the commas behind them. -/
def mnemonicWords (text : String) : List String :=
  ((text.toList.filter (· != ',')).splitOn ' ').map String.ofList

/-- The name that a mnemonic begins with and its operands. -/
def readAssembly (text : String) : Option (String × List Operand) :=
  match mnemonicWords text with
  | [] => none
  | name :: operands => some (name, operands.map Operand.ofText)

section Words

variable {w name text : String} {gap : String}

theorem IsSolid.filter_toList (h : IsSolid w) : w.toList.filter (· != ',') = w.toList :=
  List.filter_eq_self.mpr fun c hc ↦ bne_iff_ne.mpr (h c hc).2

theorem IsSolid.splitOn_toList (h : IsSolid w) : w.toList.splitOn ' ' = [w.toList] :=
  List.splitOn_eq_singleton fun hc ↦ (h ' ' hc).1 rfl

/-- A word more, behind a blank with or without a comma in front of it. -/
theorem mnemonicWords_append (text : String) (hgap : gap = " " ∨ gap = ", ") (h : IsSolid w) :
    mnemonicWords (text ++ gap ++ w) = mnemonicWords text ++ [w] := by
  have hblank : gap.toList.filter (· != ',') = [' '] := by
    rcases hgap with rfl | rfl <;> decide
  rw [mnemonicWords, String.toList_append, String.toList_append, List.filter_append,
    List.filter_append, hblank, h.filter_toList, List.append_assoc, List.singleton_append,
    List.splitOn_append_cons_self, h.splitOn_toList, List.map_append, List.map_singleton,
    String.ofList_toList]
  rfl

/-- A word shows an operand. -/
structure Operand.Shows (o : Operand) (w : String) : Prop where
  solid : IsSolid w
  ofText_eq : ofText w = o

instance (o : Operand) (w : String) : Decidable (o.Shows w) :=
  decidable_of_iff (IsSolid w ∧ Operand.ofText w = o) ⟨fun h ↦ ⟨h.1, h.2⟩, fun h ↦ ⟨h.1, h.2⟩⟩

variable {a b : String} {o p : Operand} {os : List Operand}

theorem readAssembly_append (hgap : gap = " " ∨ gap = ", ")
    (h : readAssembly text = some (name, os)) (ha : o.Shows a) :
    readAssembly (text ++ gap ++ a) = some (name, os ++ [o]) := by
  rw [readAssembly] at h
  cases hwords : mnemonicWords text with
  | nil => simp [hwords] at h
  | cons first operands =>
    simp only [hwords, Option.some.injEq, Prod.mk.injEq] at h
    obtain ⟨rfl, rfl⟩ := h
    rw [readAssembly, mnemonicWords_append text hgap ha.solid, hwords, ← ha.ofText_eq]
    simp

theorem readAssembly_first (text : String) (h : readAssembly text = some (name, []))
    (ha : o.Shows a) : readAssembly (text ++ " " ++ a) = some (name, [o]) :=
  readAssembly_append (.inl rfl) h ha

theorem readAssembly_second (text : String) (h : readAssembly text = some (name, [o]))
    (hb : p.Shows b) : readAssembly (text ++ ", " ++ b) = some (name, [o, p]) :=
  readAssembly_append (.inr rfl) h hb

end Words

/-! ## Operands -/

namespace Operand

theorem shows_register (x : Nibble) : (register x).Shows ("V" ++ x.digit) := by
  have hdigit : ("V" ++ x.digit).toList = ['V', hexDigit x.val] := by
    rw [String.toList_append, Nibble.digit, hex, hexDigits, if_pos x.lt]
    exact congrArg ('V' :: ·) String.toList_ofList
  have hall : ∀ d < 16, hexDigit d ≠ ' ' ∧ hexDigit d ≠ ',' := by decide
  refine ⟨?_, ?_⟩
  · rw [IsSolid, hdigit, List.forall_mem_cons, List.forall_mem_singleton]
    exact ⟨by decide, hall x.val x.lt⟩
  · have hread := digit?_of_isDigit (by decide) (isDigit_hexDigit x.lt)
    have hx : Nibble.ofNat x.val = x := Fin.ext (Nat.mod_eq_of_lt x.lt)
    rw [ofText, hdigit]
    simp only [hread, Option.elim_some, hx]

theorem shows_hexLiteral (width : ℕ) {n : ℕ} (h : n < 0x10000) :
    (number n).Shows (hexLiteral width n) := by
  have hwrites := writes_hexLiteral width n
  refine ⟨?_, ?_⟩
  · have hchars : IsSolid (.ofList ('x' :: 'X' :: '+' :: digitChars)) := by decide
    rw [IsSolid, String.toList_ofList] at hchars
    exact fun c hc ↦ hchars c (hwrites.mem_chars hc)
  · have hread := (ofLiteral_eq_ok_iff (by decide)).mpr ⟨hwrites, h⟩
    rw [toList_hexLiteral] at hread
    rw [ofText, toList_hexLiteral]
    simp [hread]

theorem shows_word (width : ℕ) (w : UInt16) : (number w.toNat).Shows (hexLiteral width w.toNat) :=
  shows_hexLiteral width w.toNat_lt

theorem shows_byte (b : UInt8) : (number b.toNat).Shows (hexLiteral 2 b.toNat) :=
  shows_hexLiteral 2 (Nat.lt_trans b.toNat_lt (by decide))

theorem shows_decimal (n : Nibble) : (number n.val).Shows (toString n.val) := by
  revert n
  decide

end Operand

/-! ## Names and operands -/

namespace Instruction

/-- The name of an instruction and its operands. -/
def assembly : Instruction → String × List Operand
  | .clear => ("CLS", [])
  | .ret => ("RET", [])
  | .jump nnn => ("JP", [.number nnn.toNat])
  | .jumpOffset nnn => ("JP", [.register (.ofNat 0), .number nnn.toNat])
  | .call nnn => ("CALL", [.number nnn.toNat])
  | .skipEqualByte x nn => ("SE", [.register x, .number nn.toNat])
  | .skipUnequalByte x nn => ("SNE", [.register x, .number nn.toNat])
  | .skipEqual x y => ("SE", [.register x, .register y])
  | .skipUnequal x y => ("SNE", [.register x, .register y])
  | .setByte x nn => ("LD", [.register x, .number nn.toNat])
  | .addByte x nn => ("ADD", [.register x, .number nn.toNat])
  | .setIndex nnn => ("LD", [.part "I", .number nnn.toNat])
  | .addIndex x => ("ADD", [.part "I", .register x])
  | .arith op x y => (op.mnemonic, [.register x, .register y])
  | .random x nn => ("RND", [.register x, .number nn.toNat])
  | .draw x y n => ("DRW", [.register x, .register y, .number n.val])
  | .skipPressed x => ("SKP", [.register x])
  | .skipNotPressed x => ("SKNP", [.register x])
  | .awaitKey x => ("LD", [.register x, .part "K"])
  | .readDelay x => ("LD", [.register x, .part "DT"])
  | .setDelay x => ("LD", [.part "DT", .register x])
  | .setSound x => ("LD", [.part "ST", .register x])
  | .pointGlyph x => ("LD", [.part "F", .register x])
  | .storeDecimal x => ("LD", [.part "B", .register x])
  | .storeRegisters x => ("LD", [.part "[I]", .register x])
  | .loadRegisters x => ("LD", [.register x, .part "[I]"])
  | .unknown word => ("DW", [.number word.toNat])

/-- The instruction with a name and operands. The kinds of the operands say where the name is
looked up. -/
def ofAssembly? (name : String) : List Operand → Option Instruction
  | [] => [("CLS", clear), ("RET", ret)].lookup name
  | [.number n] =>
    [("JP", jump (.ofNat n)), ("CALL", call (.ofNat n)), ("DW", unknown (.ofNat n))].lookup name
  | [.register x] => [("SKP", skipPressed x), ("SKNP", skipNotPressed x)].lookup name
  | [.register x, .number n] =>
    [("JP", jumpOffset (.ofNat n)), ("SE", skipEqualByte x (.ofNat n)),
      ("SNE", skipUnequalByte x (.ofNat n)), ("LD", setByte x (.ofNat n)),
      ("ADD", addByte x (.ofNat n)), ("RND", random x (.ofNat n))].lookup name
  | [.register x, .register y] =>
    [("SE", skipEqual x y), ("SNE", skipUnequal x y), ("LD", arith .set x y), ("OR", arith .or x y),
      ("AND", arith .and x y), ("XOR", arith .xor x y), ("ADD", arith .add x y),
      ("SUB", arith .sub x y), ("SHR", arith .shiftRight x y), ("SUBN", arith .subReverse x y),
      ("SHL", arith .shiftLeft x y)].lookup name
  | [.register x, .part p] =>
    [(("LD", "K"), awaitKey x), (("LD", "DT"), readDelay x),
      (("LD", "[I]"), loadRegisters x)].lookup (name, p)
  | [.part p, .register x] =>
    [(("ADD", "I"), addIndex x), (("LD", "DT"), setDelay x), (("LD", "ST"), setSound x),
      (("LD", "F"), pointGlyph x), (("LD", "B"), storeDecimal x),
      (("LD", "[I]"), storeRegisters x)].lookup (name, p)
  | [.part p, .number n] => [(("LD", "I"), setIndex (.ofNat n))].lookup (name, p)
  | [.register x, .register y, .number n] => [("DRW", draw x y (.ofNat n))].lookup name
  | _ => none

theorem ofAssembly?_assembly (i : Instruction) :
    ofAssembly? i.assembly.1 i.assembly.2 = some i := by
  cases i with
  | arith op x y => cases op <;> rfl
  | draw x y n =>
    have hn : Nibble.ofNat n.val = n := Fin.ext (Nat.mod_eq_of_lt n.lt)
    simp [assembly, ofAssembly?, hn]
  | awaitKey | readDelay | loadRegisters => rfl
  | addIndex | setDelay | setSound | pointGlyph | storeDecimal | storeRegisters => rfl
  | _ => simp [assembly, ofAssembly?, List.lookup_cons]

section Reading

open Operand

theorem readAssembly_byte (name : String) (h : readAssembly name = some (name, [])) (x : Nibble)
    (nn : UInt8) : readAssembly (name ++ " " ++ ("V" ++ x.digit) ++ ", " ++ hexLiteral 2 nn.toNat) =
      some (name, [.register x, .number nn.toNat]) :=
  readAssembly_second _ (readAssembly_first name h (shows_register x)) (shows_byte nn)

theorem readAssembly_registers (name : String) (h : readAssembly name = some (name, []))
    (x y : Nibble) : readAssembly (name ++ " " ++ ("V" ++ x.digit) ++ ", " ++ ("V" ++ y.digit)) =
      some (name, [.register x, .register y]) :=
  readAssembly_second _ (readAssembly_first name h (shows_register x)) (shows_register y)

theorem readAssembly_load (x : Nibble) {p : String} (hp : (part p).Shows p) :
    readAssembly ("LD " ++ ("V" ++ x.digit) ++ (", " ++ p)) =
      some ("LD", [.register x, .part p]) := by
  rw [← String.append_assoc]
  exact readAssembly_second _ (readAssembly_first "LD" (by decide) (shows_register x)) hp

/-- A mnemonic says the name and the operands. -/
theorem readAssembly_mnemonic (i : Instruction) : readAssembly i.mnemonic = some i.assembly := by
  have hSE : readAssembly "SE" = some ("SE", []) := by decide
  have hSNE : readAssembly "SNE" = some ("SNE", []) := by decide
  have hLD : readAssembly "LD" = some ("LD", []) := by decide
  have hADD : readAssembly "ADD" = some ("ADD", []) := by decide
  cases i with
  | clear => decide
  | ret => decide
  | jump nnn => exact readAssembly_first "JP" (by decide) (shows_word 3 nnn)
  | jumpOffset nnn => exact readAssembly_second "JP V0" (by decide) (shows_word 3 nnn)
  | call nnn => exact readAssembly_first "CALL" (by decide) (shows_word 3 nnn)
  | skipEqualByte x nn => exact readAssembly_byte "SE" hSE x nn
  | skipUnequalByte x nn => exact readAssembly_byte "SNE" hSNE x nn
  | skipEqual x y => exact readAssembly_registers "SE" hSE x y
  | skipUnequal x y => exact readAssembly_registers "SNE" hSNE x y
  | setByte x nn => exact readAssembly_byte "LD" hLD x nn
  | addByte x nn => exact readAssembly_byte "ADD" hADD x nn
  | setIndex nnn => exact readAssembly_second "LD I" (by decide) (shows_word 3 nnn)
  | addIndex x => exact readAssembly_second "ADD I" (by decide) (shows_register x)
  | arith op x y =>
    have hop : readAssembly op.mnemonic = some (op.mnemonic, []) := by cases op <;> decide
    exact readAssembly_registers op.mnemonic hop x y
  | random x nn => exact readAssembly_byte "RND" (by decide) x nn
  | draw x y n =>
    have hplace := readAssembly_registers "DRW" (by decide) x y
    exact readAssembly_append (.inr rfl) hplace (shows_decimal n)
  | skipPressed x => exact readAssembly_first "SKP" (by decide) (shows_register x)
  | skipNotPressed x => exact readAssembly_first "SKNP" (by decide) (shows_register x)
  | awaitKey x => exact readAssembly_load x (p := "K") (by decide)
  | readDelay x => exact readAssembly_load x (p := "DT") (by decide)
  | setDelay x => exact readAssembly_second "LD DT" (by decide) (shows_register x)
  | setSound x => exact readAssembly_second "LD ST" (by decide) (shows_register x)
  | pointGlyph x => exact readAssembly_second "LD F" (by decide) (shows_register x)
  | storeDecimal x => exact readAssembly_second "LD B" (by decide) (shows_register x)
  | storeRegisters x => exact readAssembly_second "LD [I]" (by decide) (shows_register x)
  | loadRegisters x => exact readAssembly_load x (p := "[I]") (by decide)
  | unknown word => exact readAssembly_first "DW" (by decide) (shows_word 4 word)

end Reading

/-! ## Instructions read back -/

def ofMnemonic? (text : String) : Option Instruction :=
  ((readAssembly text).bind fun a ↦ ofAssembly? a.1 a.2).filter (·.mnemonic = text)

theorem ofMnemonic?_eq_some_iff {text : String} {i : Instruction} :
    ofMnemonic? text = some i ↔ i.mnemonic = text := by
  rw [ofMnemonic?, Option.filter_eq_some_iff]
  constructor
  · rintro ⟨-, htext⟩
    exact of_decide_eq_true htext
  · rintro rfl
    refine ⟨?_, decide_eq_true rfl⟩
    rw [readAssembly_mnemonic, Option.bind_some, ofAssembly?_assembly]

example : ofMnemonic? "LD V1, 0x2A" = some (.setByte 1 42) := by decide +kernel

theorem mnemonic_injective : Function.Injective mnemonic := by
  intro i j h
  have hi := ofMnemonic?_eq_some_iff.mpr h
  exact Option.some.inj (hi.symm.trans (ofMnemonic?_eq_some_iff.mpr rfl))

/-- **A mnemonic identifies its instruction.** Whatever the operands, different instructions have
different mnemonics, and from the mnemonic an instruction can be told. Two words are therefore
listed alike only if they are decoded to the same instruction, which means that one pattern fits
them both, with the same operands. Executing the one is executing the other: in any state of the
machine both fail alike or both succeed, with the same outcome and the same state behind it. -/
theorem mnemonic_identifies :
    Function.Injective mnemonic ∧
    (∀ (text : String) (i : Instruction), ofMnemonic? text = some i ↔ i.mnemonic = text) ∧
    ∀ w w' : UInt16,
      ((decode w).mnemonic = (decode w').mnemonic ↔ decode w = decode w') ∧
      ((decode w).mnemonic = (decode w').mnemonic ↔ ∃ i : Instruction, i.Fits w ∧ i.Fits w') ∧
      ((decode w).mnemonic = (decode w').mnemonic → ∀ m : Machine,
        (Procedure.execute (decode w)).run m = (Procedure.execute (decode w')).run m ∧
        (m.fetch = .ok w → m.Executes (decode w'))) := by
  refine ⟨mnemonic_injective, fun _ _ ↦ ofMnemonic?_eq_some_iff, fun w w' ↦ ?_⟩
  have hsame : (decode w).mnemonic = (decode w').mnemonic ↔ decode w = decode w' :=
    mnemonic_injective.eq_iff
  refine ⟨hsame, ?_, fun h m ↦ ?_⟩
  · rw [hsame]
    constructor
    · intro h
      exact ⟨decode w', decode_eq_iff.mp h, decode_eq_iff.mp rfl⟩
    · rintro ⟨i, hw, hw'⟩
      exact (decode_of_fits hw).trans (decode_of_fits hw').symm
  · rw [hsame.mp h]
    refine ⟨rfl, fun hfetch ↦ ?_⟩
    exact (Machine.standsAt_iff.mpr ⟨w, hfetch, hsame.mp h⟩).executes

/-- The second nibble of a clear is not looked at, so the word is told by its mnemonic just as far
as it has an effect. -/
theorem mnemonic_identifies_clear :
    (decode 0x01E0).mnemonic = (decode 0x00E0).mnemonic ∧ decode 0x01E0 = decode 0x00E0 ∧
      ∀ m : Machine, m.fetch = .ok 0x01E0 → m.Executes .clear := by
  have hsame : (decode 0x01E0).mnemonic = (decode 0x00E0).mnemonic := by decide
  obtain ⟨-, -, hwords⟩ := mnemonic_identifies
  obtain ⟨hdecode, -, heffect⟩ := hwords 0x01E0 0x00E0
  exact ⟨hsame, hdecode.mp hsame, fun m hfetch ↦ (heffect hsame m).2 hfetch⟩

end Instruction

end ChipEight
