import ChipEight.Text.Joining

/-!
# Clusters

Cuts a text into clusters: what a reader takes for single characters. Whether a character joins the
cluster before it depends on the character before it and on four facts about the cluster: whether it
ends in a pictograph with a joiner, in a consonant with a linker, or in a flag letter that has no
partner yet. These facts are kept while the text is read from left to right.
-/

namespace ChipEight

namespace Joining

/-- What a character does in a cluster. -/
inductive Role where
  /-- Stands for itself. -/
  | plain
  /-- Joins with nothing. -/
  | control
  /-- Extends what is before it. -/
  | extending
  /-- Extends what is before it and joins pictographs. -/
  | joiner
  /-- Extends what is before it and takes a place. -/
  | spacing
  /-- Stands before another character and belongs to it. -/
  | leading
  /-- Names a flag together with another one. -/
  | flagLetter
  /-- A consonant at the beginning of a Hangul syllable. -/
  | initial
  | vowel
  /-- A consonant at the end of a Hangul syllable. -/
  | final
  /-- A Hangul syllable; `isOpen` if it ends in a vowel. -/
  | syllable (isOpen : Bool)
  deriving DecidableEq, Repr

/-- The character that joins pictographs. -/
def zeroWidthJoiner : Char := '\u200D'

/-- The character that keeps others from joining. -/
def zeroWidthNonJoiner : Char := '\u200C'

/-- What a character does in a cluster. -/
def roleOf (c : Char) : Role :=
  if c.toNat < 0x20 || c.toNat == 0x7F then .control
  else if c.toNat < 0x80 then .plain
  else if c = zeroWidthJoiner then .joiner
  else if extending.holds c || skinTones.holds c then .extending
  else if spacing.holds c then .spacing
  else if leading.holds c then .leading
  else if controls.holds c then .control
  else if flagLetters.holds c then .flagLetter
  else if initials.holds c then .initial
  else if vowels.holds c then .vowel
  else if finals.holds c then .final
  else if syllables.holds c then .syllable ((c.toNat - 0xAC00) % 28 == 0)
  else .plain

/-- How far a cluster is on the way from one character to another that joins it. -/
inductive Progress where
  /-- Nothing has begun. -/
  | none
  /-- The first character is there. -/
  | begun
  /-- The sign that joins is there too. -/
  | ready
  deriving DecidableEq, Repr

/-- What has to be known of the text so far. -/
structure State where
  /-- What the last character does. -/
  role : Role
  /-- From a pictograph to the next one. -/
  picture : Progress
  /-- From a consonant to the next one. -/
  conjunct : Progress
  /-- Whether the last character is a flag letter without a partner. -/
  single : Bool
  deriving DecidableEq, Repr

namespace State

/-- The state at the beginning, where nothing can be joined. -/
def start : State := ⟨.control, .none, .none, false⟩

/-- Progress towards the next pictograph. -/
def nextPicture (s : State) (c : Char) (role : Role) : Progress :=
  match s.picture, role with
  | .begun, .extending => .begun
  | .begun, .joiner => .ready
  | _, _ => if pictographs.holds c then .begun else .none

/-- Progress towards the next consonant. -/
def nextConjunct (s : State) (c : Char) (role : Role) : Progress :=
  if consonants.holds c then .begun
  else if s.conjunct = .none || c = zeroWidthNonJoiner then .none
  else if linkers.holds c then .ready
  else if role = .extending || role = .joiner then s.conjunct
  else .none

/-- The state behind a character. -/
def next (s : State) (c : Char) : State :=
  let role := roleOf c
  if c.toNat < 0x80 then ⟨role, .none, .none, false⟩
  else ⟨role, s.nextPicture c role, s.nextConjunct c role, role == .flagLetter && !s.single⟩

/-- Whether two characters join because of what they do, whatever else is in the cluster. -/
def joinsRoles : Role → Role → Bool
  | .control, _ | _, .control => false
  | _, .extending | _, .joiner | _, .spacing | .leading, _ => true
  | .initial, .initial | .initial, .vowel | .initial, .syllable _ => true
  | .vowel, .vowel | .vowel, .final | .syllable true, .vowel => true
  | .syllable _, .final | .final, .final => true
  | _, _ => false

/-- Whether a character joins the cluster before it. -/
def joins (s : State) (c : Char) : Bool :=
  joinsRoles s.role (roleOf c) ||
    (s.single && flagLetters.holds c) ||
    (s.picture == .ready && pictographs.holds c) ||
    (s.conjunct == .ready && consonants.holds c)

end State

/-- Cuts characters into clusters. `cluster` holds the characters of the cluster being read, in
order. -/
def clustersFrom (s : State) (cluster : List Char) : List Char → List (List Char)
  | [] => if cluster.isEmpty then [] else [cluster]
  | c :: cs =>
    if cluster.isEmpty || s.joins c then clustersFrom (s.next c) (cluster ++ [c]) cs
    else cluster :: clustersFrom (s.next c) [c] cs

end Joining

def clusters (cs : List Char) : List (List Char) := Joining.clustersFrom .start [] cs

/-- Clusters put one behind the other, with the characters of the one being read in front. -/
theorem Joining.flatten_clustersFrom (s : Joining.State) (cluster cs : List Char) :
    (Joining.clustersFrom s cluster cs).flatten = cluster ++ cs := by
  induction cs generalizing s cluster with
  | nil =>
    cases cluster with
    | nil => simp [clustersFrom]
    | cons a as => simp [clustersFrom]
  | cons c cs ih =>
    rw [clustersFrom]
    split
    · simp [ih]
    · simp [ih]

/-- No character of a text is lost or moved when it is cut into clusters. -/
theorem flatten_clusters (cs : List Char) : (clusters cs).flatten = cs := by
  simp [clusters, Joining.flatten_clustersFrom]

end ChipEight
