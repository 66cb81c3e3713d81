import ChipEight.Text.Width

/-!
# Painting in cells

A picture is a list of strips, each a horizontal row of cells at some place. Strips are painted one
after the other, and where two of them overlap the later one is seen; where there is none the
picture is blank. So a cell of the picture can be computed by itself, at any place and for any size.
-/

namespace ChipEight

inductive Color where
  /-- Whatever the terminal uses. -/
  | plain
  | red
  | green
  | yellow
  | black
  deriving DecidableEq, Repr

/-- A cell of a picture. -/
structure Cell where
  /-- The characters in the cell, of which there may be several if they extend one another. -/
  text : List Char
  /-- The colour of the characters. -/
  ink : Color
  /-- The colour behind the characters. -/
  paper : Color
  deriving DecidableEq, Repr

def Cell.blank : Cell := ⟨[' '], .plain, .plain⟩

/-- A horizontal row of cells. -/
structure Strip where
  /-- Column of the first cell. -/
  x : Nat
  /-- Row of all cells. -/
  y : Nat
  /-- The cells from left to right. -/
  cells : Array Cell
  deriving DecidableEq, Repr

namespace Strip

/-- The cell that a strip has at a place, if it reaches there. -/
def at? (s : Strip) (x y : Nat) : Option Cell :=
  if s.y = y ∧ s.x ≤ x then s.cells[x - s.x]? else none

/-- The cells of a cluster. The first holds its characters, and the others are blank. -/
def ofCluster (ink paper : Color) (cluster : List Char) (width : Nat) : List Cell :=
  if width = 0 then [] else ⟨cluster, ink, paper⟩ :: List.replicate (width - 1) Cell.blank

/-- The cells of clusters cut to a number of columns. A cluster is cut off whole. -/
def ofClusters (ink paper : Color) : Nat → List (List Char × Nat) → List Cell
  | _, [] => []
  | room, (cluster, width) :: rest =>
    if room < width then []
    else ofCluster ink paper cluster width ++ ofClusters ink paper (room - width) rest

/-- A text in cells, cut to a number of columns. What is wider than these is left out. -/
def ofText (x y width : Nat) (text : List Char) (ink paper : Color) : Strip :=
  let shown := (shownClusters text).filter fun cluster ↦ cluster.2 ≤ width
  ⟨x, y, (ofClusters ink paper width shown).toArray⟩

/-- A text in the colours of the terminal. -/
def plain (x y width : Nat) (text : List Char) : Strip := ofText x y width text .plain .plain

end Strip

/-- Strips in the order of painting. -/
abbrev Picture := List Strip

namespace Picture

def cell (p : Picture) (x y : Nat) : Cell := p.foldl (fun c s ↦ (s.at? x y).getD c) Cell.blank

/-- A row of a picture, so many columns wide. -/
def row (p : Picture) (width y : Nat) : List Cell :=
  let strips : Picture := p.filter fun s ↦ s.y == y
  (List.range width).map fun x ↦ strips.cell x y

end Picture

/-! ## Boxes -/

/-- A rectangle with a border. -/
structure Box where
  /-- Column of the left border. -/
  x : Nat
  /-- Row of the upper border. -/
  y : Nat
  /-- Columns, the border included. -/
  width : Nat
  /-- Rows, the border included. -/
  height : Nat
  deriving DecidableEq, Repr

namespace Box

def innerWidth (b : Box) : Nat := b.width - 2

def innerHeight (b : Box) : Nat := b.height - 2

/-- A row of the border or of the inside: a left and a right character and the same one between. -/
def edge (b : Box) (y : Nat) (left between right : Char) : Strip :=
  .plain b.x y b.width (left :: List.replicate b.innerWidth between ++ [right])

/-- The border with a title over its upper edge. -/
def frame (b : Box) (title : List Char) : Picture :=
  b.edge b.y '┌' '─' '┐' ::
    (List.range b.innerHeight).map (fun k ↦ b.edge (b.y + 1 + k) '│' ' ' '│') ++
    [b.edge (b.y + b.height - 1) '└' '─' '┘', .plain (b.x + 1) b.y b.innerWidth title]

/-- A second title, which ends before the corner. -/
def rightTitle (b : Box) (title : List Char) (ink : Color) : Strip :=
  .ofText (b.x + b.width - 1 - title.length) b.y title.length title ink .plain

/-- A line of text inside the border, with the cells given. -/
def strip (b : Box) (k indent : Nat) (cells : List Cell) : Strip :=
  ⟨b.x + 1 + indent, b.y + 1 + k, (cells.take (b.innerWidth - indent)).toArray⟩

/-- Lines of text inside the border, cut where they do not fit. -/
def text (b : Box) (ink : Color) (lines : List (List Char)) : Picture :=
  (lines.take b.innerHeight).mapIdx fun k line ↦
    .ofText (b.x + 1) (b.y + 1 + k) b.innerWidth line ink .plain

end Box

end ChipEight
