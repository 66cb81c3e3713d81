import ChipEight.Proofs.Text.Narrow

/-!
# What is seen of a picture

Of the strips that reach a place the last one is seen there. Two cases are all that a screen made of
boxes needs. If the strips that reach a place all have the same cell there, that cell is seen, and
it does not matter which of them is the last. And if none of them reaches the place, what was there
before is still seen.

The second case is where boxes come in: all that is painted in a box stays in it, however long its
texts are, so painting one box does nothing to the others.
-/

namespace ChipEight

/-! ## Places -/

/-- A place lies in a box, its border included. -/
def Box.Covers (b : Box) (x y : ℕ) : Prop :=
  b.x ≤ x ∧ x < b.x + b.width ∧ b.y ≤ y ∧ y < b.y + b.height

/-- All cells of a strip lie in a box. -/
structure Strip.Within (s : Strip) (b : Box) : Prop where
  left : b.x ≤ s.x
  right : s.x + s.cells.size ≤ b.x + b.width
  top : b.y ≤ s.y
  bottom : s.y < b.y + b.height

/-- All strips of a picture lie in a box. -/
def Picture.Within (p : Picture) (b : Box) : Prop := ∀ s ∈ p, s.Within b

namespace Strip

variable {s : Strip} {b : Box} {x y : ℕ} {c : Cell}

theorem at?_eq_some_iff :
    s.at? x y = some c ↔ s.y = y ∧ s.x ≤ x ∧ s.cells[x - s.x]? = some c := by
  rw [at?, Option.ite_none_right_eq_some, and_assoc]

theorem at?_of_row_ne (h : s.y ≠ y) (x : ℕ) : s.at? x y = none :=
  if_neg fun hat ↦ h hat.1

theorem Within.at?_eq_none (hs : s.Within b) (hplace : ¬b.Covers x y) : s.at? x y = none := by
  refine Option.eq_none_iff_forall_ne_some.mpr fun c hc ↦ ?_
  obtain ⟨rfl, hx, hcell⟩ := at?_eq_some_iff.mp hc
  obtain ⟨hlt, -⟩ := Array.getElem?_eq_some_iff.mp hcell
  have hleft := hs.left
  have hright := hs.right
  exact hplace ⟨by omega, by omega, hs.top, hs.bottom⟩

/-! ## Texts have no more cells than room -/

theorem length_ofClusters_le (ink paper : Color) (room : ℕ) (cs : List (List Char × ℕ)) :
    (ofClusters ink paper room cs).length ≤ room := by
  induction cs generalizing room with
  | nil => exact Nat.zero_le _
  | cons head rest ih =>
    obtain ⟨cluster, width⟩ := head
    rw [ofClusters]
    by_cases hroom : room < width
    · rw [if_pos hroom]
      exact Nat.zero_le _
    · have hcluster : (ofCluster ink paper cluster width).length = width := by
        rw [ofCluster]
        split
        · next hzero => rw [hzero, List.length_nil]
        · rw [List.length_cons, List.length_replicate]
          omega
      have hrest := ih (room - width)
      rw [if_neg hroom, List.length_append, hcluster]
      omega

theorem size_ofText_le (x y width : ℕ) (text : List Char) (ink paper : Color) :
    (ofText x y width text ink paper).cells.size ≤ width :=
  length_ofClusters_le _ _ _ _

theorem within_ofText {width : ℕ} (text : List Char) (ink paper : Color) (hx : b.x ≤ x)
    (hwidth : x + width ≤ b.x + b.width) (htop : b.y ≤ y) (hbottom : y < b.y + b.height) :
    (ofText x y width text ink paper).Within b where
  left := hx
  right := Nat.le_trans (Nat.add_le_add_left (size_ofText_le _ _ _ _ _ _) _) hwidth
  top := htop
  bottom := hbottom

end Strip

/-! ## Pictures -/

namespace Picture

variable {p q : Picture} {b : Box} {x y : ℕ} {c : Cell}

/-- What is seen at a place after a picture has been painted over a cell. -/
def seenOver (p : Picture) (c : Cell) (x y : ℕ) : Cell := p.foldl (fun c s ↦ (s.at? x y).getD c) c

theorem cell_eq_seenOver (p : Picture) (x y : ℕ) : p.cell x y = p.seenOver Cell.blank x y := rfl

theorem seenOver_cons (s : Strip) (p : Picture) (c : Cell) :
    seenOver (s :: p) c x y = p.seenOver ((s.at? x y).getD c) x y :=
  rfl

theorem seenOver_append (p q : Picture) (c : Cell) (x y : ℕ) :
    seenOver (p ++ q) c x y = q.seenOver (p.seenOver c x y) x y :=
  List.foldl_append

theorem seenOver_of_untouched (h : ∀ s ∈ p, s.at? x y = none) (c : Cell) :
    p.seenOver c x y = c := by
  induction p with
  | nil => rfl
  | cons s p ih =>
    obtain ⟨hs, hp⟩ := List.forall_mem_cons.mp h
    rw [seenOver_cons, hs, Option.getD_none, ih hp]

theorem seenOver_of_agreeing (h : ∀ s ∈ p, ∀ d, s.at? x y = some d → d = c) :
    p.seenOver c x y = c := by
  induction p with
  | nil => rfl
  | cons s p ih =>
    obtain ⟨hs, hp⟩ := List.forall_mem_cons.mp h
    rw [seenOver_cons]
    cases hat : s.at? x y with
    | none => exact ih hp
    | some d =>
      rw [hs d hat]
      exact ih hp

/-- If the strips that reach a place agree on it and there is one, that is what is seen. -/
theorem seenOver_of_mem {s : Strip} (hs : s ∈ p) (hat : s.at? x y = some c)
    (h : ∀ t ∈ p, ∀ d, t.at? x y = some d → d = c) (below : Cell) : p.seenOver below x y = c := by
  induction p generalizing below with
  | nil => cases hs
  | cons t p ih =>
    obtain ⟨-, hp⟩ := List.forall_mem_cons.mp h
    rw [seenOver_cons]
    rcases List.mem_cons.mp hs with rfl | hs
    · rw [hat]
      exact seenOver_of_agreeing hp
    · exact ih hs hp _

/-- Strips in rows of their own, one below the other. -/
theorem seenOver_mapIdx {α : Type} {l : List α} {f : ℕ → α → Strip} {top k : ℕ} {a : α}
    (hrow : ∀ k a, (f k a).y = top + k) (ha : l[k]? = some a)
    (hat : (f k a).at? x (top + k) = some c) (below : Cell) :
    seenOver (l.mapIdx f) below x (top + k) = c := by
  refine seenOver_of_mem (s := f k a) ?_ hat ?_ below
  · obtain ⟨hk, rfl⟩ := List.getElem?_eq_some_iff.mp ha
    exact List.mem_mapIdx.mpr ⟨k, hk, rfl⟩
  · intro t ht d hd
    obtain ⟨j, hj, rfl⟩ := List.mem_mapIdx.mp ht
    obtain ⟨hy, -⟩ := Strip.at?_eq_some_iff.mp hd
    rw [hrow] at hy
    obtain rfl : j = k := by omega
    obtain ⟨_, rfl⟩ := List.getElem?_eq_some_iff.mp ha
    exact Option.some.inj (hd.symm.trans hat)

theorem within_append : Within (p ++ q) b ↔ p.Within b ∧ q.Within b := List.forall_mem_append

theorem within_cons {s : Strip} : Within (s :: p) b ↔ s.Within b ∧ p.Within b :=
  List.forall_mem_cons

/-! ### Rows -/

theorem seenOver_filter_row (p : Picture) (c : Cell) (x y : ℕ) :
    seenOver (p.filter fun s ↦ s.y == y) c x y = p.seenOver c x y := by
  induction p generalizing c with
  | nil => rfl
  | cons s p ih =>
    by_cases hy : s.y = y
    · rw [List.filter_cons_of_pos (by simp [hy]), seenOver_cons, seenOver_cons, ih]
    · rw [List.filter_cons_of_neg (by simp [hy]), seenOver_cons, Strip.at?_of_row_ne hy, ih]
      rfl

theorem length_row (p : Picture) (width y : ℕ) : (p.row width y).length = width := by
  rw [row, List.length_map, List.length_range]

theorem getElem?_row (p : Picture) {width : ℕ} (hx : x < width) (y : ℕ) :
    (p.row width y)[x]? = some (p.cell x y) := by
  rw [row, List.getElem?_map, List.getElem?_range hx, Option.map_some, cell_eq_seenOver,
    seenOver_filter_row, cell_eq_seenOver]

end Picture

/-! ## Boxes -/

namespace Box

open Picture

variable {b : Box} {ink : Color} {k j : ℕ}

theorem within_edge (b : Box) {y : ℕ} (htop : b.y ≤ y) (hbottom : y < b.y + b.height)
    (left between right : Char) : (b.edge y left between right).Within b :=
  Strip.within_ofText _ _ _ (Nat.le_refl _) (Nat.le_refl _) htop hbottom

theorem within_frame (hwidth : 2 ≤ b.width) (hheight : 2 ≤ b.height) (title : List Char) :
    Within (b.frame title) b := by
  refine within_append.mpr ⟨within_cons.mpr ⟨?_, ?_⟩, within_cons.mpr ⟨?_, ?_⟩⟩
  · exact b.within_edge (Nat.le_refl _) (by omega) _ _ _
  · intro s hs
    obtain ⟨k, hk, rfl⟩ := List.mem_map.mp hs
    have hinside : k < b.height - 2 := List.mem_range.mp hk
    exact b.within_edge (by omega) (by omega) _ _ _
  · exact b.within_edge (by omega) (by omega) _ _ _
  · intro s hs
    rw [List.mem_singleton.mp hs]
    refine Strip.within_ofText title _ _ (Nat.le_succ _) ?_ (Nat.le_refl _) (by omega)
    rw [innerWidth]
    omega

theorem within_rightTitle {title : List Char} (hroom : title.length < b.width)
    (hheight : 0 < b.height) (ink : Color) : (b.rightTitle title ink).Within b :=
  Strip.within_ofText _ _ _ (by omega) (by omega) (Nat.le_refl _) (by omega)

theorem within_text (hwidth : 2 ≤ b.width) (ink : Color) (lines : List (List Char)) :
    Within (b.text ink lines) b := by
  intro s hs
  obtain ⟨k, hk, rfl⟩ := List.mem_mapIdx.mp hs
  have hinside : k < b.height - 2 := by
    rw [List.length_take] at hk
    exact Nat.lt_of_lt_of_le hk (Nat.min_le_left _ _)
  refine Strip.within_ofText _ _ _ (Nat.le_succ _) ?_ (by omega) (by omega)
  rw [innerWidth]
  omega

theorem within_strip {indent : ℕ} (hindent : indent ≤ b.innerWidth) (hwidth : 2 ≤ b.width)
    (hk : k < b.innerHeight) (cells : List Cell) : (b.strip k indent cells).Within b := by
  rw [innerWidth] at hindent
  rw [innerHeight] at hk
  have hsize : (b.strip k indent cells).cells.size ≤ b.width - 2 - indent := by
    rw [strip, List.size_toArray, List.length_take]
    exact Nat.min_le_left _ _
  have hx : (b.strip k indent cells).x = b.x + 1 + indent := rfl
  have hy : (b.strip k indent cells).y = b.y + 1 + k := rfl
  exact ⟨by omega, by omega, by omega, by omega⟩

/-! ### What is seen inside -/

theorem seenOver_text {lines : List (List Char)} {cs : List Char} {c : Char}
    (hk : k < b.innerHeight) (hline : lines[k]? = some cs) (hnarrow : Narrow cs)
    (hj : j < b.innerWidth) (hc : cs[j]? = some c) (below : Cell) :
    seenOver (b.text ink lines) below (b.x + 1 + j) (b.y + 1 + k) = ⟨[c], ink, .plain⟩ := by
  refine seenOver_mapIdx (a := cs) (fun _ _ ↦ rfl) ?_ ?_ below
  · rw [List.getElem?_take, if_pos hk, hline]
  · rw [ofText_of_narrow _ _ _ _ _ hnarrow]
    refine Strip.at?_eq_some_iff.mpr ⟨rfl, Nat.le_add_right _ _, ?_⟩
    simp [hj, hc]

/-- Cells that are given are seen in a box from the indentation on, if there is room for them. -/
theorem seenOver_strips {rows : List (List Cell)} {indent : List Cell → ℕ} {row : List Cell}
    {c : Cell} (hrow : rows[k]? = some row) (hj : indent row + j < b.innerWidth)
    (hc : row[j]? = some c) (below : Cell) :
    seenOver (rows.mapIdx fun k row ↦ b.strip k (indent row) row) below (b.x + 1 + indent row + j)
      (b.y + 1 + k) = c := by
  refine seenOver_mapIdx (a := row) (fun _ _ ↦ rfl) hrow ?_ below
  refine Strip.at?_eq_some_iff.mpr ⟨rfl, Nat.le_add_right _ _, ?_⟩
  have hroom : j < b.innerWidth - indent row := by omega
  simp [strip, hroom, hc]

/-! ### Boxes that lie apart -/

/-- A box lies left of another one or above it. -/
def Precedes (a b : Box) : Prop := a.x + a.width ≤ b.x ∨ a.y + a.height ≤ b.y

theorem Precedes.not_covers {a b : Box} {x y : ℕ} (h : a.Precedes b) (hplace : a.Covers x y) :
    ¬b.Covers x y := by
  rintro ⟨hx, -, hy, -⟩
  obtain ⟨-, hright, -, hbottom⟩ := hplace
  rcases h with h | h
  · omega
  · omega

/-- Of pictures that stay in boxes lying apart, what is seen at a place of a box is what the picture
of this box shows. -/
theorem exists_seenOver_flatMap {parts : List (Box × Picture)} {part : Box × Picture} {x y : ℕ}
    (hwithin : ∀ part ∈ parts, part.2.Within part.1)
    (hapart : parts.Pairwise fun a b ↦ a.1.Precedes b.1) (hpart : part ∈ parts)
    (hplace : part.1.Covers x y) (c : Cell) :
    ∃ below, seenOver (parts.flatMap (·.2)) c x y = part.2.seenOver below x y := by
  induction parts generalizing c with
  | nil => cases hpart
  | cons first rest ih =>
    obtain ⟨-, hrest⟩ := List.forall_mem_cons.mp hwithin
    obtain ⟨hfirst, hapart⟩ := List.pairwise_cons.mp hapart
    rw [List.flatMap_cons, seenOver_append]
    rcases List.mem_cons.mp hpart with rfl | hpart
    · refine ⟨c, seenOver_of_untouched (fun s hs ↦ ?_) _⟩
      obtain ⟨other, hother, hs⟩ := List.mem_flatMap.mp hs
      exact (hrest other hother s hs).at?_eq_none ((hfirst other hother).not_covers hplace)
    · exact ih hrest hapart hpart _

end Box

end ChipEight
