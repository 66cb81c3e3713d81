import ChipEight.Files.Tree

/-!
# Files that keep what is written to them

What can be said of saving and loading depends on the files only in so far as a file holds the bytes
last written to it. `KeepsFiles` is this law, stated by what reading gives and for anything that has
files: a file that was written holds what was written, and it holds that until it is written again.
Which paths lead to the same file is a matter of the files and depends on what is there.

`FileTree` keeps the law. A write that succeeds puts a file where no folder is, and following a path
only ever goes on from folders; so every path is followed as before, and it leads to another file
than the one written unless it leads to that place.
-/

namespace ChipEight

namespace MonadFiles

variable {σ : Type} [MonadFiles (StateM σ)]

/-- What reading a file gives, and the files afterwards. -/
def reading (files : σ) (path : String) : Except FileFault ByteArray × σ :=
  (read (m := StateM σ) path).run files

/-- What writing a file gives, and the files afterwards. -/
def writing (files : σ) (path : String) (bytes : ByteArray) : Except FileFault Unit × σ :=
  (write (m := StateM σ) path bytes).run files

/-- The file that a path leads to holds these bytes. -/
def Holds (files : σ) (path : String) (bytes : ByteArray) : Prop :=
  (reading files path).1 = .ok bytes

end MonadFiles

open MonadFiles

/-- A file holds the bytes last written to it. -/
class KeepsFiles (σ : Type) [MonadFiles (StateM σ)] where
  /-- Whether a write to the first path would write the file that the second path leads to. -/
  Writes : σ → String → String → Prop
  /-- A file that has been written holds what was written. -/
  holds_written {files : σ} {path : String} {bytes : ByteArray} :
    (writing files path bytes).1 = .ok () → Holds (writing files path bytes).2 path bytes
  /-- A file holds what it holds while others are written, -/
  holds_writing {files : σ} {path other : String} {bytes written : ByteArray} :
    Holds files path bytes → ¬Writes files other path →
      Holds (writing files other written).2 path bytes
  /-- and while files are read. -/
  holds_reading {files : σ} {path other : String} {bytes : ByteArray} :
    Holds files path bytes → Holds (reading files other).2 path bytes

namespace MonadFiles

theorem decodeText_toUTF8 (s : String) : decodeText s.toUTF8 = .ok s := by
  have hdecode : String.fromUTF8? s.toUTF8 = some s := dif_pos s.isValidUTF8
  rw [decodeText, hdecode]

theorem readText_of_holds {σ : Type} [MonadFiles (StateM σ)] {files : σ} {path text : String}
    (h : Holds files path text.toUTF8) :
    (readText (m := StateM σ) path).run files = (.ok text, (reading files path).2) := by
  have hrun : (readText (m := StateM σ) path).run files
      = ((reading files path).1 >>= decodeText, (reading files path).2) := rfl
  rw [hrun, h, ← decodeText_toUTF8]
  rfl

end MonadFiles

/-! ## File trees -/

theorem bind_eq_ok_iff {ε α β : Type} {x : Except ε α} {f : α → Except ε β} {b : β} :
    (x >>= f) = .ok b ↔ ∃ a, x = .ok a ∧ f a = .ok b := by
  cases x <;> simp [bind, Except.bind]

namespace FileTree

variable {t : FileTree} {place source : Location} {path other : String} {bytes : ByteArray}

/-- The location that a path leads to. -/
def locate (t : FileTree) (path : String) : Except FileFault Location :=
  t.walk path (Path.parts path)

theorem read_eq_ok_iff :
    t.read path = .ok bytes ↔ checkPath path = .ok () ∧
      ∃ place, t.locate path = .ok place ∧ t.lookup place = .ok (.file bytes) := by
  simp only [read, bind_eq_ok_iff, locate]
  constructor
  · rintro ⟨⟨⟩, hcheck, place, hplace, entry, hentry, hread⟩
    cases entry with
    | file other =>
      cases hread
      exact ⟨hcheck, place, hplace, hentry⟩
    | folder => cases hread
  · rintro ⟨hcheck, place, hplace, hentry⟩
    exact ⟨(), hcheck, place, hplace, .file bytes, hentry, rfl⟩

/-! ### A file put where no folder is -/

theorem lookup?_put (h : t.lookup? place ≠ some .folder) (e : Entry) (other : Location) :
    (t.put place e).lookup? other = if other = place then some e else t.lookup? other := by
  simp only [lookup?, put, List.find?_cons]
  by_cases hroot : other = [] ∨ other = start
  · have hne : other ≠ place := by
      rintro rfl
      exact h (by rw [lookup?, if_pos hroot])
    rw [if_pos hroot, if_neg hne, if_pos hroot]
  · rw [if_neg hroot, if_neg hroot]
    by_cases hplace : other = place
    · simp [hplace]
    · have hne : (place == other) = false := by simpa using Ne.symm hplace
      simp [hplace, hne]

theorem lookup_put_self (h : t.lookup? place ≠ some .folder) (e : Entry) :
    (t.put place e).lookup place = .ok e := by
  rw [lookup, lookup?_put h, if_pos rfl]

theorem lookup_put_of_ne (h : t.lookup? place ≠ some .folder) (e : Entry) {other : Location}
    (hne : other ≠ place) : (t.put place e).lookup other = t.lookup other := by
  rw [lookup, lookup?_put h, if_neg hne, lookup]

theorem ne_of_lookup_folder (h : t.lookup? place ≠ some .folder)
    (hfolder : t.lookup source = .ok .folder) : source ≠ place := by
  rintro rfl
  rw [lookup] at hfolder
  split at hfolder
  · next e he =>
    cases hfolder
    exact h he
  · cases hfolder

theorem follow_put (h : t.lookup? place ≠ some .folder) (e : Entry) {part : Path.Part}
    {target : Location} (hfollow : t.follow source part = .ok target) :
    (t.put place e).follow source part = .ok target := by
  rw [follow.eq_def, bind_eq_ok_iff] at hfollow ⊢
  obtain ⟨entry, hentry, hgo⟩ := hfollow
  cases entry with
  | file held => cases hgo
  | folder =>
    have hsource := lookup_put_of_ne h e (ne_of_lookup_folder h hentry)
    refine ⟨.folder, hsource.trans hentry, ?_⟩
    cases part with
    | stay => exact hgo
    | up => exact hgo
    | down name =>
      simp only [bind_eq_ok_iff] at hgo ⊢
      obtain ⟨_, hname, found, hfound, htarget⟩ := hgo
      refine ⟨(), hname, ?_⟩
      by_cases hplace : name :: source = place
      · exact ⟨e, by rw [hplace, lookup_put_self h], htarget⟩
      · exact ⟨found, by rw [lookup_put_of_ne h e hplace, hfound], htarget⟩

theorem walk_put (h : t.lookup? place ≠ some .folder) (e : Entry) {parts : List Path.Part}
    {target : Location} (hwalk : t.walk path parts = .ok target) :
    (t.put place e).walk path parts = .ok target := by
  rw [walk] at hwalk ⊢
  generalize (if Path.isAbsolute path then [] else start) = source at hwalk ⊢
  induction parts generalizing source with
  | nil => exact hwalk
  | cons part parts ih =>
    rw [List.foldlM_cons, bind_eq_ok_iff] at hwalk ⊢
    obtain ⟨next, hnext, hrest⟩ := hwalk
    exact ⟨next, follow_put h e hnext, ih next hrest⟩

theorem read_put (h : t.lookup? place ≠ some .folder) (e : Entry) (hread : t.read path = .ok bytes)
    (hother : t.locate path ≠ .ok place) : (t.put place e).read path = .ok bytes := by
  rw [read_eq_ok_iff] at hread ⊢
  obtain ⟨hcheck, found, hfound, hfile⟩ := hread
  have hne : found ≠ place := by
    rintro rfl
    exact hother hfound
  exact ⟨hcheck, found, walk_put h e hfound, (lookup_put_of_ne h e hne).trans hfile⟩

/-! ### Writing -/

theorem essential_eq (h : Path.endsWithSlash path = false) : essential path = Path.parts path := by
  have hkeep : path.toList.reverse.dropWhile (· == '/') = path.toList.reverse := by
    rw [Path.endsWithSlash, List.getLast?_eq_head?_reverse] at h
    cases hletters : path.toList.reverse with
    | nil => rfl
    | cons c cs =>
      have hc : (c == '/') = false := by simpa [hletters] using h
      rw [List.dropWhile_cons, hc, if_neg Bool.false_ne_true]
  rw [essential, hkeep, List.reverse_reverse, String.ofList_toList]

/-- The place that a path can be written to: no folder is there, and the last part of the path leads
to it from a folder. -/
theorem exists_of_target (h : t.target path = .ok place) :
    checkPath path = .ok () ∧ t.lookup? place ≠ some .folder ∧
      ∃ inner folder name, Path.parts path = inner ++ [.down name] ∧ place = name :: folder ∧
        t.walk path inner = .ok folder ∧ t.lookup folder = .ok .folder ∧
        checkName name = .ok () := by
  simp only [target, bind_eq_ok_iff] at h
  obtain ⟨⟨⟩, hcheck, h⟩ := h
  split at h
  · next name hlast =>
    obtain ⟨folder, hwalk, h⟩ := bind_eq_ok_iff.mp h
    obtain ⟨entry, hentry, h⟩ := bind_eq_ok_iff.mp h
    cases entry with
    | file held => cases h
    | folder =>
      dsimp only at h
      split at h
      · cases h
      · next hslash =>
        obtain ⟨⟨⟩, hname, h⟩ := bind_eq_ok_iff.mp h
        rw [essential_eq (Bool.eq_false_iff.mpr hslash)] at hlast hwalk
        split at h
        · cases h
        · next hfree =>
          cases h
          obtain ⟨inner, hparts⟩ := List.getLast?_eq_some_iff.mp hlast
          rw [hparts, List.dropLast_concat] at hwalk
          exact ⟨hcheck, hfree, inner, folder, name, hparts, rfl, hwalk, hentry, hname⟩
  · obtain ⟨place, -, h⟩ := bind_eq_ok_iff.mp h
    cases h

/-- A file that was written is read back. -/
theorem read_put_self (h : t.target path = .ok place) :
    (t.put place (.file bytes)).read path = .ok bytes := by
  obtain ⟨hcheck, hfree, inner, folder, name, hparts, rfl, hwalk, hfolder, hname⟩ :=
    exists_of_target h
  have hlookup := lookup_put_self hfree (.file bytes)
  have hfollow : (t.put (name :: folder) (.file bytes)).follow folder (.down name)
      = .ok (name :: folder) := by
    have hsource := lookup_put_of_ne hfree (.file bytes) (ne_of_lookup_folder hfree hfolder)
    rw [follow.eq_def, bind_eq_ok_iff]
    refine ⟨.folder, hsource.trans hfolder, ?_⟩
    simp only [bind_eq_ok_iff]
    exact ⟨(), hname, .file bytes, hlookup, rfl⟩
  refine read_eq_ok_iff.mpr ⟨hcheck, name :: folder, ?_, hlookup⟩
  rw [locate, hparts, walk, List.foldlM_append, bind_eq_ok_iff]
  exact ⟨folder, walk_put hfree _ hwalk, by rw [List.foldlM_cons, hfollow]; rfl⟩

theorem writing_of_target (h : t.target path = .ok place) (bytes : ByteArray) :
    writing t path bytes = (.ok (), t.put place (.file bytes)) := by
  have hwrite : t.write path bytes = .ok (t.put place (.file bytes)) := by
    rw [write, h, Except.map]
  simp only [writing, MonadFiles.write, StateT.run, hwrite]

theorem writing_of_target_error {fault : FileFault} (h : t.target path = .error fault)
    (bytes : ByteArray) : writing t path bytes = (.error fault, t) := by
  have hwrite : t.write path bytes = .error fault := by
    rw [write, h, Except.map]
  simp only [writing, MonadFiles.write, StateT.run, hwrite]

/-- A write to one path writes the file of another one if both lead to the same place. A write that
fails writes nothing. -/
instance : KeepsFiles FileTree where
  Writes t other path := ∃ place, t.target other = .ok place ∧ t.locate path = .ok place
  holds_written {t path bytes} h := by
    rcases htarget : t.target path with fault | place
    · rw [writing_of_target_error htarget] at h
      cases h
    · rw [writing_of_target htarget]
      exact read_put_self htarget
  holds_writing {t path other bytes written} h hother := by
    rcases htarget : t.target other with fault | place
    · rw [writing_of_target_error htarget]
      exact h
    · rw [writing_of_target htarget]
      refine read_put (exists_of_target htarget).2.1 _ h fun hplace ↦ ?_
      exact hother ⟨place, htarget, hplace⟩
  holds_reading h := h

end FileTree

end ChipEight
