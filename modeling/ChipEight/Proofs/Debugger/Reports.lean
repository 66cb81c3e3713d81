import ChipEight.Debugger.Report
import ChipEight.Proofs.Screen.Texts
import ChipEight.Proofs.Text.Numerals

/-!
# Reports read back

A report is a text for people, but nothing of it is lost. Lines end where the next one begins and
no line contains a line break; the address of a line ends at a colon, which is no digit; bytes and
words have as many digits as they can need, and a blank is no digit either. So a dump can be cut
into lines, a line into an address and bytes, and the bytes of all lines, one after the other, are
what was dumped, whatever the width of the addresses and however short the last line is.

The readers in this file cut texts in just this way. They are about what a text says and know
nothing of the bytes it was made from.
-/

namespace ChipEight

open Whole

/-! ## Pieces of a text -/

section Pieces

variable {α β γ : Type} {c : Char}

theorem mem_intercalate {d : Char} {pieces : List (List Char)}
    (h : c ∈ [d].intercalate pieces) : c = d ∨ ∃ piece ∈ pieces, c ∈ piece := by
  induction pieces with
  | nil => simp at h
  | cons piece pieces ih =>
    cases pieces with
    | nil => exact .inr ⟨piece, List.mem_cons_self, by simpa using h⟩
    | cons next pieces =>
      rw [List.intercalate_cons_cons, List.mem_append, List.mem_append, List.mem_singleton] at h
      rcases h with (h | rfl) | h
      · exact .inr ⟨piece, List.mem_cons_self, h⟩
      · exact .inl rfl
      · rcases ih h with rfl | ⟨found, hfound, hc⟩
        · exact .inl rfl
        · exact .inr ⟨found, List.mem_cons_of_mem _ hfound, hc⟩

/-- Texts that are put together with a separator come apart at it again, unless they contain it. -/
theorem splitOn_toList_intercalate {sep : String} {texts : List String} (hsep : sep.toList = [c])
    (hne : texts ≠ []) (h : ∀ text ∈ texts, c ∉ text.toList) :
    (sep.intercalate texts).toList.splitOn c = texts.map String.toList := by
  rw [String.toList_intercalate, hsep]
  refine List.splitOn_intercalate c ?_ (by simpa using hne)
  intro piece hpiece
  obtain ⟨text, htext, rfl⟩ := List.mem_map.mp hpiece
  exact h text htext

theorem not_mem_hex (h : c ∉ digitChars) (width n : ℕ) : c ∉ (hex width n).toList :=
  fun hc ↦ h ((isNumeral_hex width n).mem_digitChars (by decide) hc)

theorem mapM_splitOn_blank {numbers : List α} {width : ℕ} {value : α → ℕ}
    {read : List Char → Option α} (hne : numbers ≠ [])
    (h : ∀ a, read (hex width (value a)).toList = some a) :
    ((" ".intercalate (numbers.map fun a ↦ hex width (value a))).toList.splitOn ' ').mapM read =
      some numbers := by
  rw [splitOn_toList_intercalate rfl (by simpa using hne), List.mapM_map, List.mapM_map]
  · simp only [Function.comp_def, h]
    exact List.mapM_pure.trans (congrArg some (List.map_id numbers))
  · intro text htext
    obtain ⟨a, -, rfl⟩ := List.mem_map.mp htext
    exact not_mem_hex (by decide) width (value a)

/-- Items that are shown one after the other are read one after the other. -/
theorem mapM_mapIdx {items : List α} {shown : ℕ → α → γ} {read : γ → Option β}
    {value : ℕ → α → β}
    (h : ∀ k, ∀ a ∈ items, read (shown k a) = some (value k a)) :
    (items.mapIdx shown).mapM read = some (items.mapIdx value) := by
  induction items generalizing shown value with
  | nil => rfl
  | cons a items ih =>
    have hrest := ih fun k b hb ↦ h (k + 1) b (List.mem_cons_of_mem _ hb)
    rw [List.mapIdx_cons, List.mapIdx_cons, List.mapM_cons, h 0 a List.mem_cons_self, hrest]
    rfl

end Pieces

namespace Report

/-! ## Rows -/

section Rows

variable {bytes row : List UInt8} {r : ℕ}

/-- As many rows as it takes, one of them for less than sixteen bytes. -/
theorem length_rows (bytes : List UInt8) : (rows bytes).length = (bytes.length + 15) / 16 := by
  rw [rows, List.length_map, List.length_range]
  rfl

theorem getElem?_rows_eq_some_iff : (rows bytes)[r]? = some row ↔
    bytesPerLine * r < bytes.length ∧ (bytes.drop (bytesPerLine * r)).take bytesPerLine = row := by
  have hrow : r < (bytes.length + bytesPerLine - 1) / bytesPerLine ↔
      bytesPerLine * r < bytes.length := by
    rw [bytesPerLine]
    omega
  rw [List.getElem?_eq_some_iff]
  simp only [rows, List.length_map, List.length_range, List.getElem_map, List.getElem_range, hrow,
    exists_prop]

theorem flatten_rows (bytes : List UInt8) : (rows bytes).flatten = bytes := by
  have hfirst : ∀ k, ((List.range k).map fun r ↦
      (bytes.drop (bytesPerLine * r)).take bytesPerLine).flatten =
        bytes.take (bytesPerLine * k) := by
    intro k
    induction k with
    | zero => rfl
    | succ k ih =>
      rw [List.range_succ, List.map_append, List.flatten_append, ih, Nat.mul_succ, List.take_add]
      simp
  rw [rows, hfirst]
  refine List.take_of_length_le ?_
  rw [bytesPerLine]
  omega

theorem rows_ne_nil (h : bytes ≠ []) : rows bytes ≠ [] := by
  intro hrows
  refine h ?_
  rw [← flatten_rows bytes, hrows, List.flatten_nil]

theorem length_row_of_getElem? (h : (rows bytes)[r]? = some row) :
    row ≠ [] ∧ row.length ≤ bytesPerLine ∧
      (r + 1 < (rows bytes).length → row.length = bytesPerLine) := by
  obtain ⟨hr, rfl⟩ := getElem?_rows_eq_some_iff.mp h
  rw [length_rows, ← List.length_pos_iff, List.length_take, List.length_drop]
  rw [bytesPerLine] at hr ⊢
  omega

end Rows

/-! ## Readers -/

def textLines (text : String) : List (List Char) := text.toList.splitOn '\n'

/-- A byte is two digits. -/
def readByte (cs : List Char) : Option UInt8 :=
  if cs.length = 2 then (readHex cs).map .ofNat else none

/-- A word is up to four digits. -/
def readWord (cs : List Char) : Option UInt16 :=
  if cs.length ≤ 4 then (readHex cs).map .ofNat else none

/-- The address in front of a line, and what stands behind it. -/
def readAddress (line : List Char) : Option (ℕ × List Char) :=
  match line.dropWhile (· != ':') with
  | ':' :: ' ' :: rest => (readHex (line.takeWhile (· != ':'))).map (·, rest)
  | _ => none

def readDumpLine (line : List Char) : Option (ℕ × List UInt8) :=
  (readAddress line).bind fun (address, rest) ↦
    ((rest.splitOn ' ').mapM readByte).map (address, ·)

def readDump (text : String) : Option (List (ℕ × List UInt8)) := (textLines text).mapM readDumpLine

def readDisassemblyLine (line : List Char) : Option (ℕ × UInt16 × String) :=
  (readAddress line).bind fun (address, rest) ↦
    match rest.drop 4 with
    | ' ' :: ' ' :: mnemonic => (readWord (rest.take 4)).map (address, ·, .ofList mnemonic)
    | _ => none

def readDisassembly (text : String) : Option (List (ℕ × UInt16 × String)) :=
  (textLines text).mapM readDisassemblyLine

def readBreakpoints (text : String) : Option (List UInt16) :=
  if text = "No breakpoints" then some [] else (text.toList.splitOn ' ').mapM readWord

/-! ## Lines -/

section Lines

variable {start : UInt16} {bytes row : List UInt8} {items : List (UInt16 × Instruction)}

theorem readByte_hex (b : UInt8) : readByte (hex 2 b.toNat).toList = some b := by
  rw [readByte, if_pos (fills_byte b).length_eq, readHex_hex, Option.map_some, UInt8.ofNat_toNat]

theorem readWord_hex {width : ℕ} (h : width ≤ 4) (w : UInt16) :
    readWord (hex width w.toNat).toList = some w := by
  rw [readWord, if_pos (fitsIn_word h w).length_le, readHex_hex, Option.map_some,
    UInt16.ofNat_toNat]

theorem readAddress_append (address : ℕ) (rest : List Char) :
    readAddress ((hex 3 address).toList ++ ':' :: ' ' :: rest) = some (address, rest) := by
  have hcolon : ∀ c ∈ (hex 3 address).toList, (c != ':') = true := by
    intro c hc
    refine bne_iff_ne.mpr ?_
    rintro rfl
    exact not_mem_hex (by decide) 3 address hc
  rw [readAddress, List.dropWhile_append_of_pos hcolon, List.takeWhile_append_of_pos hcolon]
  simp [readHex_hex]

theorem dumpLine_starts_with_address (address : ℕ) (row : List UInt8) :
    (hex 3 address ++ ": ").toList <+: (dumpLine address row).toList :=
  ⟨_, String.toList_append.symm⟩

theorem readDumpLine_dumpLine (address : ℕ) (h : row ≠ []) :
    readDumpLine (dumpLine address row).toList = some (address, row) := by
  have hline : (dumpLine address row).toList = (hex 3 address).toList ++ ':' :: ' ' ::
      (" ".intercalate (row.map fun b ↦ hex 2 b.toNat)).toList := by
    simp [dumpLine]
  rw [readDumpLine, hline, readAddress_append]
  simp only [Option.bind_some, mapM_splitOn_blank h readByte_hex, Option.map_some]

theorem readDisassemblyLine_disassemblyLine (address : ℕ) (item : UInt16 × Instruction) :
    readDisassemblyLine (disassemblyLine address item).toList =
      some (address, item.1, item.2.mnemonic) := by
  have hline : (disassemblyLine address item).toList = (hex 3 address).toList ++ ':' :: ' ' ::
      ((hex 4 item.1.toNat).toList ++ ' ' :: ' ' :: item.2.mnemonic.toList) := by
    simp [disassemblyLine]
  have hlength : (hex 4 item.1.toNat).toList.length = 4 := (fills_word item.1).length_eq
  rw [readDisassemblyLine, hline, readAddress_append]
  simp only [Option.bind_some, List.drop_left' hlength, List.take_left' hlength,
    readWord_hex (Nat.le_refl 4), Option.map_some, String.ofList_toList]

theorem narrow_address (address : ℕ) : Narrow (hex 3 address ++ ": ").toList :=
  narrow_append_toList (narrow_hex 3 address) (by decide)

theorem narrow_dumpLine (address : ℕ) (row : List UInt8) :
    Narrow (dumpLine address row).toList := by
  refine narrow_append_toList (narrow_address address) ?_
  rw [String.toList_intercalate]
  intro c hc
  rcases mem_intercalate hc with rfl | ⟨piece, hpiece, hc⟩
  · decide
  · rw [List.map_map] at hpiece
    obtain ⟨b, -, rfl⟩ := List.mem_map.mp hpiece
    exact narrow_hex 2 b.toNat c hc

theorem narrow_disassemblyLine (address : ℕ) (item : UInt16 × Instruction) :
    Narrow (disassemblyLine address item).toList := by
  have hword := narrow_append_toList (narrow_address address) (narrow_hex 4 item.1.toNat)
  have hgap : Narrow "  ".toList := by decide
  exact narrow_append_toList (narrow_append_toList hword hgap) (fitsIn_mnemonic item.2).narrow

/-- A line break is not narrow, so narrow lines are the lines of the text that they make. -/
theorem textLines_intercalate {lines : List String} (hne : lines ≠ [])
    (h : ∀ line ∈ lines, Narrow line.toList) :
    textLines ("\n".intercalate lines) = lines.map String.toList := by
  refine splitOn_toList_intercalate rfl hne fun line hline hbreak ↦ ?_
  have hnarrow := h line hline '\n' hbreak
  revert hnarrow
  decide

theorem textLines_memory (start : UInt16) (h : bytes ≠ []) :
    textLines (describe (.memory start bytes)) =
      ((rows bytes).mapIdx fun r row ↦ dumpLine (start.toNat + bytesPerLine * r) row).map
        String.toList := by
  refine textLines_intercalate (by simpa using rows_ne_nil h) ?_
  intro line hline
  obtain ⟨r, hr, rfl⟩ := List.mem_mapIdx.mp hline
  exact narrow_dumpLine _ _

theorem textLines_disassembly (start : UInt16) (h : items ≠ []) :
    textLines (describe (.disassembly start items)) =
      (items.mapIdx fun k item ↦ disassemblyLine (start.toNat + 2 * k) item).map String.toList := by
  refine textLines_intercalate (by simpa using h) ?_
  intro line hline
  obtain ⟨k, hk, rfl⟩ := List.mem_mapIdx.mp hline
  exact narrow_disassemblyLine _ _

end Lines

/-! ## Texts -/

section Texts

variable {bytes : List UInt8} {items : List (UInt16 × Instruction)}

theorem readDump_describe (start : UInt16) (h : bytes ≠ []) :
    readDump (describe (.memory start bytes)) =
      some ((rows bytes).mapIdx fun r row ↦ (start.toNat + bytesPerLine * r, row)) := by
  rw [readDump, textLines_memory start h, List.mapM_map]
  refine mapM_mapIdx fun r row hrow ↦ ?_
  obtain ⟨k, hk⟩ := List.mem_iff_getElem?.mp hrow
  rw [Function.comp_apply, readDumpLine_dumpLine _ (length_row_of_getElem? hk).1]

theorem readDisassembly_describe (start : UInt16) (h : items ≠ []) :
    readDisassembly (describe (.disassembly start items)) =
      some (items.mapIdx fun k item ↦ (start.toNat + 2 * k, item.1, item.2.mnemonic)) := by
  rw [readDisassembly, textLines_disassembly start h, List.mapM_map]
  refine mapM_mapIdx fun k item _ ↦ ?_
  rw [Function.comp_apply, readDisassemblyLine_disassemblyLine]

theorem readBreakpoints_describe (addresses : List UInt16) :
    readBreakpoints (describe (.breakpoints addresses)) = some addresses := by
  cases addresses with
  | nil => exact if_pos rfl
  | cons first rest =>
    have hread : ((describe (.breakpoints (first :: rest))).toList.splitOn ' ').mapM readWord =
        some (first :: rest) :=
      mapM_splitOn_blank (List.cons_ne_nil first rest) (readWord_hex (by decide))
    -- The words for an empty list are not addresses.
    have hwords : describe (.breakpoints (first :: rest)) ≠ "No breakpoints" := by
      intro heq
      rw [heq] at hread
      have hnone : ("No breakpoints".toList.splitOn ' ').mapM readWord = none := by decide
      rw [hnone] at hread
      cases hread
    rw [readBreakpoints, if_neg hwords, hread]

end Texts

/-- **Reports can be read back.** A dump of some bytes has as many lines as there are rows of
sixteen. Each line begins with its address, and its bytes can be read; all lines but the last have
sixteen of them. Together they are the bytes that were dumped. A listing of some instructions has a
line for each, with its address, its word and its mnemonic. The addresses of breakpoints come back
as well, and the words for no breakpoints are not used for any others. -/
theorem describe_reads_back :
    (∀ (start : UInt16) (bytes : List UInt8), bytes ≠ [] →
      (textLines (describe (.memory start bytes))).length = (bytes.length + 15) / 16 ∧
      (∀ r line, (textLines (describe (.memory start bytes)))[r]? = some line →
        (hex 3 (start.toNat + 16 * r) ++ ": ").toList <+: line ∧
        ∃ row, readDumpLine line = some (start.toNat + 16 * r, row) ∧ row ≠ [] ∧
          row.length ≤ 16 ∧ (r + 1 < (bytes.length + 15) / 16 → row.length = 16)) ∧
      (readDump (describe (.memory start bytes))).map (List.flatMap Prod.snd) = some bytes) ∧
    (∀ (start : UInt16) (items : List (UInt16 × Instruction)), items ≠ [] →
      (textLines (describe (.disassembly start items))).length = items.length ∧
      readDisassembly (describe (.disassembly start items)) =
        some (items.mapIdx fun k item ↦ (start.toNat + 2 * k, item.1, item.2.mnemonic))) ∧
    ∀ addresses : List UInt16,
      readBreakpoints (describe (.breakpoints addresses)) = some addresses ∧
      (describe (.breakpoints addresses) = describe (.breakpoints []) ↔ addresses = []) := by
  refine ⟨fun start bytes h ↦ ⟨?_, fun r line hline ↦ ?_, ?_⟩, fun start items h ↦ ⟨?_, ?_⟩,
    fun addresses ↦ ⟨readBreakpoints_describe addresses, fun heq ↦ ?_, fun h ↦ by rw [h]⟩⟩
  · rw [textLines_memory start h, List.length_map, List.length_mapIdx, length_rows]
  · rw [textLines_memory start h, List.getElem?_map, List.getElem?_mapIdx] at hline
    obtain ⟨_, hshown, rfl⟩ := Option.map_eq_some_iff.mp hline
    obtain ⟨row, hrow, rfl⟩ := Option.map_eq_some_iff.mp hshown
    obtain ⟨hne, hle, hfull⟩ := length_row_of_getElem? hrow
    rw [length_rows] at hfull
    exact ⟨dumpLine_starts_with_address _ row, row, readDumpLine_dumpLine _ hne, hne, hle, hfull⟩
  · have hbytes : ((rows bytes).mapIdx fun r row ↦
        (start.toNat + bytesPerLine * r, row)).map Prod.snd = rows bytes := by
      refine List.ext_getElem? fun r ↦ ?_
      simp [Function.comp_def]
    rw [readDump_describe start h, Option.map_some, List.flatMap_def, hbytes, flatten_rows]
  · rw [textLines_disassembly start h, List.length_map, List.length_mapIdx]
  · exact readDisassembly_describe start h
  · have hread := readBreakpoints_describe addresses
    rw [heq, readBreakpoints_describe] at hread
    exact (Option.some.inj hread).symm

/-- Seventeen bytes close to the end of the addresses make two lines. The second one has a longer
address and a single byte. -/
theorem describe_reads_back_longAddress :
    (textLines (describe (.memory 0xFFF8 (List.replicate 17 0x2A)))).length = 2 ∧
    (∃ row, readDumpLine "10008: 2A".toList = some (0x10008, row) ∧ row ≠ []) ∧
    readBreakpoints "200 FFFF" = some [0x200, 0xFFFF] := by
  obtain ⟨hdump, -, hbreakpoints⟩ := describe_reads_back
  obtain ⟨hlength, hlines, -⟩ := hdump 0xFFF8 (List.replicate 17 0x2A) (by decide)
  have hsecond : (textLines (describe (.memory 0xFFF8 (List.replicate 17 0x2A))))[1]? =
      some "10008: 2A".toList := by
    decide +kernel
  obtain ⟨-, row, hrow, hne, -⟩ := hlines 1 _ hsecond
  have haddresses : describe (.breakpoints [0x200, 0xFFFF]) = "200 FFFF" := by decide +kernel
  have hread := (hbreakpoints [0x200, 0xFFFF]).1
  rw [haddresses] at hread
  exact ⟨hlength, ⟨row, hrow, hne⟩, hread⟩

end Report

end ChipEight
