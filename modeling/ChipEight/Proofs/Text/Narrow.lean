import ChipEight.Nibble
import ChipEight.Screen.Canvas
import Mathlib.Data.Nat.Notation

/-!
# Narrow characters

How characters share the cells of a screen is an involved matter in general: they join in clusters,
and a cluster takes the cells that all its characters together ask for. For the characters that a
machine is shown with it is simple. They are the printable ones of ASCII and the blocks that show
pixels, none of them joins another one, and each takes one cell.

That a character joins nothing has to be known of the state between two characters, since what a
character joins may be far behind. `Idle` is the state in which nothing has been begun that a later
character could end, and narrow characters lead from idle states to idle states.
-/

namespace ChipEight

/-- Whether a character is printable ASCII or a block that shows pixels. -/
def isNarrow (c : Char) : Bool :=
  (0x20 ≤ c.toNat && c.toNat < 0x7F) || c == '█' || c == '▀' || c == '▄'

/-- All characters of a text are narrow. -/
def Narrow (cs : List Char) : Prop := ∀ c ∈ cs, isNarrow c = true

instance (cs : List Char) : Decidable (Narrow cs) :=
  decidable_of_iff (cs.all isNarrow = true) List.all_eq_true

variable {c : Char} {cs ds : List Char}

theorem isNarrow_iff : isNarrow c = true ↔
    0x20 ≤ c.toNat ∧ c.toNat < 0x7F ∨ c = '█' ∨ c = '▀' ∨ c = '▄' := by
  simp [isNarrow, or_assoc]

/-! ## Narrow texts -/

theorem narrow_nil : Narrow [] := nofun

theorem narrow_cons : Narrow (c :: cs) ↔ isNarrow c = true ∧ Narrow cs := List.forall_mem_cons

theorem narrow_append : Narrow (cs ++ ds) ↔ Narrow cs ∧ Narrow ds := List.forall_mem_append

theorem narrow_replicate (n : ℕ) (h : isNarrow c = true) : Narrow (List.replicate n c) := by
  intro d hd
  rw [List.eq_of_mem_replicate hd]
  exact h

namespace Joining

/-! ## Narrow characters join nothing -/

theorem roleOf_of_isNarrow (h : isNarrow c = true) : roleOf c = .plain := by
  rcases isNarrow_iff.mp h with ⟨hlow, hhigh⟩ | rfl | rfl | rfl
  · have hcontrol : (c.toNat < 0x20 || c.toNat == 0x7F) = false := by
      simp
      omega
    have hascii : c.toNat < 0x80 := by omega
    rw [roleOf, hcontrol, if_neg Bool.false_ne_true, if_pos hascii]
  · decide +kernel
  · decide +kernel
  · decide +kernel

namespace State

/-- Nothing has been begun that a later character could end. -/
structure Idle (s : State) : Prop where
  role : s.role = .control ∨ s.role = .plain
  picture : s.picture = .none
  conjunct : s.conjunct = .none
  single : s.single = false

variable {s : State}

theorem idle_start : start.Idle := ⟨.inl rfl, rfl, rfl, rfl⟩

theorem Idle.joins_eq_false (hs : s.Idle) (hc : isNarrow c = true) : s.joins c = false := by
  have hroles : joinsRoles s.role .plain = false := by
    rcases hs.role with hrole | hrole
    · rw [hrole]
      rfl
    · rw [hrole]
      rfl
  simp [joins, roleOf_of_isNarrow hc, hroles, hs.picture, hs.conjunct, hs.single]

theorem Idle.next (hs : s.Idle) (hc : isNarrow c = true) : (s.next c).Idle := by
  have hrole := roleOf_of_isNarrow hc
  by_cases hascii : c.toNat < 0x80
  · rw [State.next, hrole, if_pos hascii]
    exact ⟨.inr rfl, rfl, rfl, rfl⟩
  · have hblock : pictographs.holds c = false ∧ consonants.holds c = false := by
      rcases isNarrow_iff.mp hc with ⟨-, hhigh⟩ | rfl | rfl | rfl
      · omega
      · decide +kernel
      · decide +kernel
      · decide +kernel
    rw [State.next, hrole, if_neg hascii]
    refine ⟨.inr rfl, ?_, ?_, rfl⟩
    · simp [nextPicture, hs.picture, hblock.1]
    · simp [nextConjunct, hs.conjunct, hblock.2]

end State

theorem clustersFrom_of_narrow {s : State} (hs : s.Idle) (a : Char) (h : Narrow cs) :
    clustersFrom s [a] cs = [a] :: cs.map fun c ↦ [c] := by
  induction cs generalizing s a with
  | nil => rfl
  | cons c cs ih =>
    obtain ⟨hc, hcs⟩ := narrow_cons.mp h
    have hapart : ([a].isEmpty || s.joins c) = false := by
      rw [hs.joins_eq_false hc]
      rfl
    rw [clustersFrom, hapart, if_neg Bool.false_ne_true, ih (hs.next hc) c hcs]
    rfl

end Joining

theorem clusters_of_narrow (h : Narrow cs) : clusters cs = cs.map fun c ↦ [c] := by
  cases cs with
  | nil => rfl
  | cons c cs =>
    obtain ⟨hc, hcs⟩ := narrow_cons.mp h
    exact Joining.clustersFrom_of_narrow (Joining.State.idle_start.next hc) c hcs

/-! ## Narrow characters take one cell -/

theorem ofChar_of_isNarrow (h : isNarrow c = true) : Width.ofChar c = 1 := by
  rcases isNarrow_iff.mp h with ⟨-, hhigh⟩ | rfl | rfl | rfl
  · rw [Width.ofChar, if_pos (by omega)]
  · decide +kernel
  · decide +kernel
  · decide +kernel

theorem clusterWidth_of_isNarrow (h : isNarrow c = true) : clusterWidth [c] = 1 := by
  have hmeasure : clusterWidth [c] = 0 + Width.ofChar c := rfl
  rw [hmeasure, ofChar_of_isNarrow h]

theorem isControl_of_isNarrow (h : isNarrow c = true) : isControl c = false := by
  rcases isNarrow_iff.mp h with ⟨hlow, hhigh⟩ | rfl | rfl | rfl
  · simp [isControl]
    omega
  · decide
  · decide
  · decide

theorem shownClusters_of_narrow (h : Narrow cs) :
    shownClusters cs = cs.map fun c ↦ ([c], 1) := by
  rw [shownClusters, clusters_of_narrow h]
  induction cs with
  | nil => rfl
  | cons c cs ih =>
    obtain ⟨hc, hcs⟩ := narrow_cons.mp h
    simp [isControl_of_isNarrow hc, clusterWidth_of_isNarrow hc, ih hcs]

theorem ofClusters_singles (ink paper : Color) (room : ℕ) (cs : List Char) :
    Strip.ofClusters ink paper room (cs.map fun c ↦ ([c], 1))
      = (cs.take room).map fun c ↦ ⟨[c], ink, paper⟩ := by
  induction cs generalizing room with
  | nil => rw [List.take_nil]; rfl
  | cons c cs ih =>
    cases room with
    | zero => rfl
    | succ room =>
      rw [List.map_cons, Strip.ofClusters, if_neg (by omega), Nat.add_sub_cancel, ih]
      rfl

/-- A narrow text is painted one character to a cell, as far as there is room. -/
theorem ofText_of_narrow (x y width : ℕ) (ink paper : Color) (h : Narrow cs) :
    Strip.ofText x y width cs ink paper
      = ⟨x, y, ((cs.take width).map fun c ↦ ⟨[c], ink, paper⟩).toArray⟩ := by
  rw [Strip.ofText, shownClusters_of_narrow h, ← ofClusters_singles]
  cases width with
  | zero =>
    have hnone : (cs.map fun c ↦ ([c], 1)).filter (fun cluster ↦ decide (cluster.2 ≤ 0)) = [] := by
      simp
    rw [hnone, ofClusters_singles]
    rfl
  | succ width =>
    have hfit : (cs.map fun c ↦ ([c], 1)).filter (fun cluster ↦ decide (cluster.2 ≤ width + 1))
        = cs.map fun c ↦ ([c], 1) := by
      simp
    rw [hfit]

end ChipEight
