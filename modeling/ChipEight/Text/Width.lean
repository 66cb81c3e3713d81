import ChipEight.Text.Classes
import ChipEight.Text.Cluster

/-!
# The width of text on a screen

A screen has cells of one width. Most characters take one cell; ideographs and pictographs take two,
and what extends another character takes none. In a cluster a character may change the width of the
one before it: a selector makes a picture of it or takes the picture away, a joiner makes one
picture of two, and a sign for stacking puts a letter below another. So a cluster is measured from
its end to its beginning.

Control characters are not shown at all, and neither is what takes no cell.
-/

namespace ChipEight

/-!
## Tables of widths

Most characters take one cell of a screen. The tables hold those that take two or none, and those
that take more or less than on their own because of a character that follows them.
-/

namespace Width

/-- The wide characters among the first Hangul letters and the symbols. -/
def wideSymbols : Ranges :=
  [(0x1100, 0x115F), (0x231A, 0x231B), (0x2329, 0x232A), (0x23E9, 0x23EC), (0x23F0, 0x23F0),
   (0x23F3, 0x23F3), (0x25FD, 0x25FE), (0x2614, 0x2615), (0x2630, 0x2637), (0x2648, 0x2653),
   (0x267F, 0x267F), (0x268A, 0x268F), (0x2693, 0x2693), (0x26A1, 0x26A1), (0x26AA, 0x26AB),
   (0x26BD, 0x26BE), (0x26C4, 0x26C5), (0x26CE, 0x26CE), (0x26D4, 0x26D4), (0x26EA, 0x26EA),
   (0x26F2, 0x26F3), (0x26F5, 0x26F5), (0x26FA, 0x26FA), (0x26FD, 0x26FD), (0x2705, 0x2705),
   (0x270A, 0x270B), (0x2728, 0x2728), (0x274C, 0x274C), (0x274E, 0x274E), (0x2753, 0x2755),
   (0x2757, 0x2757), (0x2795, 0x2797), (0x27B0, 0x27B0), (0x27BF, 0x27BF), (0x2B1B, 0x2B1C),
   (0x2B50, 0x2B50), (0x2B55, 0x2B55)]

/-- The wide characters of the East Asian scripts. -/
def wideScripts : Ranges :=
  [(0x2E80, 0x2E99), (0x2E9B, 0x2EF3), (0x2F00, 0x2FD5), (0x2FF0, 0x303E), (0x3041, 0x3096),
   (0x3099, 0x30FF), (0x3105, 0x312F), (0x3131, 0x318E), (0x3190, 0x31E5), (0x31EF, 0x321E),
   (0x3220, 0x3247), (0x3250, 0xA48C), (0xA490, 0xA4C6), (0xA960, 0xA97C), (0xAC00, 0xD7A3),
   (0xF900, 0xFAFF), (0xFE10, 0xFE19), (0xFE30, 0xFE52), (0xFE54, 0xFE66), (0xFE68, 0xFE6B),
   (0xFF01, 0xFF60), (0xFFE0, 0xFFE6), (0x16FE0, 0x16FE4), (0x16FF0, 0x16FF6), (0x17000, 0x18CD5),
   (0x18CFF, 0x18D1E), (0x18D80, 0x18DF2), (0x1AFF0, 0x1AFF3), (0x1AFF5, 0x1AFFB),
   (0x1AFFD, 0x1AFFE), (0x1B000, 0x1B122), (0x1B132, 0x1B132), (0x1B150, 0x1B152),
   (0x1B155, 0x1B155), (0x1B164, 0x1B167), (0x1B170, 0x1B2FB), (0x1D300, 0x1D356),
   (0x1D360, 0x1D376)]

/-- The wide characters among the pictographs. -/
def widePictographs : Ranges :=
  [(0x1F004, 0x1F004), (0x1F0CF, 0x1F0CF), (0x1F18E, 0x1F18E), (0x1F191, 0x1F19A),
   (0x1F200, 0x1F202), (0x1F210, 0x1F23B), (0x1F240, 0x1F248), (0x1F250, 0x1F251),
   (0x1F260, 0x1F265), (0x1F300, 0x1F320), (0x1F32D, 0x1F335), (0x1F337, 0x1F37C),
   (0x1F37E, 0x1F393), (0x1F3A0, 0x1F3CA), (0x1F3CF, 0x1F3D3), (0x1F3E0, 0x1F3F0),
   (0x1F3F4, 0x1F3F4), (0x1F3F8, 0x1F43E), (0x1F440, 0x1F440), (0x1F442, 0x1F4FC),
   (0x1F4FF, 0x1F53D), (0x1F54B, 0x1F54E), (0x1F550, 0x1F567), (0x1F57A, 0x1F57A),
   (0x1F595, 0x1F596), (0x1F5A4, 0x1F5A4), (0x1F5FB, 0x1F64F), (0x1F680, 0x1F6C5),
   (0x1F6CC, 0x1F6CC), (0x1F6D0, 0x1F6D2), (0x1F6D5, 0x1F6D8), (0x1F6DC, 0x1F6DF),
   (0x1F6EB, 0x1F6EC), (0x1F6F4, 0x1F6FC), (0x1F7E0, 0x1F7EB), (0x1F7F0, 0x1F7F0),
   (0x1F90C, 0x1F93A), (0x1F93C, 0x1F945), (0x1F947, 0x1F9FF), (0x1FA70, 0x1FA7C),
   (0x1FA80, 0x1FA8A), (0x1FA8E, 0x1FAC6), (0x1FAC8, 0x1FAC8), (0x1FACD, 0x1FADC),
   (0x1FADF, 0x1FAEA), (0x1FAEF, 0x1FAF8)]

/-- The planes of ideographs. -/
def wideIdeographs : Ranges :=
  [(0x20000, 0x2FFFD), (0x30000, 0x3FFFD)]

/-- The characters that take two cells. -/
def wide : Ranges := wideSymbols ++ wideScripts ++ widePictographs ++ wideIdeographs

/-- The characters that are ignored where they are not supported. -/
def ignorable : Ranges :=
  [(0xAD, 0xAD), (0x34F, 0x34F), (0x61C, 0x61C), (0x1160, 0x1160), (0x17B4, 0x17B5),
   (0x180B, 0x180F), (0x200B, 0x200F), (0x202A, 0x202E), (0x2060, 0x206F), (0x3164, 0x3164),
   (0xFE00, 0xFE0F), (0xFEFF, 0xFEFF), (0xFFA0, 0xFFA0), (0xFFF0, 0xFFF8), (0x1BCA0, 0x1BCA3),
   (0x1D173, 0x1D17A), (0xE0000, 0xE0FFF)]

/-- The characters that are pictures only if a selector behind them says so. -/
def textual : Ranges :=
  [(0x23, 0x23), (0x2A, 0x2A), (0x30, 0x39), (0xA9, 0xA9), (0xAE, 0xAE), (0x203C, 0x203C),
   (0x2049, 0x2049), (0x2122, 0x2122), (0x2139, 0x2139), (0x2194, 0x2199), (0x21A9, 0x21AA),
   (0x2328, 0x2328), (0x23CF, 0x23CF), (0x23ED, 0x23EF), (0x23F1, 0x23F2), (0x23F8, 0x23FA),
   (0x24C2, 0x24C2), (0x25AA, 0x25AB), (0x25B6, 0x25B6), (0x25C0, 0x25C0), (0x25FB, 0x25FC),
   (0x2600, 0x2604), (0x260E, 0x260E), (0x2611, 0x2611), (0x2618, 0x2618), (0x261D, 0x261D),
   (0x2620, 0x2620), (0x2622, 0x2623), (0x2626, 0x2626), (0x262A, 0x262A), (0x262E, 0x262F),
   (0x2638, 0x263A), (0x2640, 0x2640), (0x2642, 0x2642), (0x265F, 0x2660), (0x2663, 0x2663),
   (0x2665, 0x2666), (0x2668, 0x2668), (0x267B, 0x267B), (0x267E, 0x267E), (0x2692, 0x2692),
   (0x2694, 0x2697), (0x2699, 0x2699), (0x269B, 0x269C), (0x26A0, 0x26A0), (0x26A7, 0x26A7),
   (0x26B0, 0x26B1), (0x26C8, 0x26C8), (0x26CF, 0x26CF), (0x26D1, 0x26D1), (0x26D3, 0x26D3),
   (0x26E9, 0x26E9), (0x26F0, 0x26F1), (0x26F4, 0x26F4), (0x26F7, 0x26F9), (0x2702, 0x2702),
   (0x2708, 0x2709), (0x270C, 0x270D), (0x270F, 0x270F), (0x2712, 0x2712), (0x2714, 0x2714),
   (0x2716, 0x2716), (0x271D, 0x271D), (0x2721, 0x2721), (0x2733, 0x2734), (0x2744, 0x2744),
   (0x2747, 0x2747), (0x2763, 0x2764), (0x27A1, 0x27A1), (0x2934, 0x2935), (0x2B05, 0x2B07),
   (0x3030, 0x3030), (0x303D, 0x303D), (0x3297, 0x3297), (0x3299, 0x3299), (0x1F170, 0x1F171),
   (0x1F17E, 0x1F17F), (0x1F202, 0x1F202), (0x1F237, 0x1F237), (0x1F321, 0x1F321),
   (0x1F324, 0x1F32C), (0x1F336, 0x1F336), (0x1F37D, 0x1F37D), (0x1F396, 0x1F397),
   (0x1F399, 0x1F39B), (0x1F39E, 0x1F39F), (0x1F3CB, 0x1F3CE), (0x1F3D4, 0x1F3DF),
   (0x1F3F3, 0x1F3F3), (0x1F3F5, 0x1F3F5), (0x1F3F7, 0x1F3F7), (0x1F43F, 0x1F43F),
   (0x1F441, 0x1F441), (0x1F4FD, 0x1F4FD), (0x1F549, 0x1F54A), (0x1F56F, 0x1F570),
   (0x1F573, 0x1F579), (0x1F587, 0x1F587), (0x1F58A, 0x1F58D), (0x1F590, 0x1F590),
   (0x1F5A5, 0x1F5A5), (0x1F5A8, 0x1F5A8), (0x1F5B1, 0x1F5B2), (0x1F5BC, 0x1F5BC),
   (0x1F5C2, 0x1F5C4), (0x1F5D1, 0x1F5D3), (0x1F5DC, 0x1F5DE), (0x1F5E1, 0x1F5E1),
   (0x1F5E3, 0x1F5E3), (0x1F5E8, 0x1F5E8), (0x1F5EF, 0x1F5EF), (0x1F5F3, 0x1F5F3),
   (0x1F5FA, 0x1F5FA), (0x1F6CB, 0x1F6CB), (0x1F6CD, 0x1F6CF), (0x1F6E0, 0x1F6E5),
   (0x1F6E9, 0x1F6E9), (0x1F6F0, 0x1F6F0), (0x1F6F3, 0x1F6F3)]

/-- The pictures that are text if a selector behind them says so. -/
def selectable : Ranges :=
  [(0x231A, 0x231B), (0x23E9, 0x23EC), (0x23F0, 0x23F0), (0x23F3, 0x23F3), (0x25FD, 0x25FE),
   (0x2614, 0x2615), (0x2648, 0x2653), (0x267F, 0x267F), (0x2693, 0x2693), (0x26A1, 0x26A1),
   (0x26AA, 0x26AB), (0x26BD, 0x26BE), (0x26C4, 0x26C5), (0x26CE, 0x26CE), (0x26D4, 0x26D4),
   (0x26EA, 0x26EA), (0x26F2, 0x26F3), (0x26F5, 0x26F5), (0x26FA, 0x26FA), (0x26FD, 0x26FD),
   (0x2705, 0x2705), (0x270A, 0x270B), (0x2728, 0x2728), (0x274C, 0x274C), (0x274E, 0x274E),
   (0x2753, 0x2755), (0x2757, 0x2757), (0x2795, 0x2797), (0x27B0, 0x27B0), (0x27BF, 0x27BF),
   (0x2B1B, 0x2B1C), (0x2B50, 0x2B50), (0x2B55, 0x2B55), (0x1F004, 0x1F004), (0x1F30D, 0x1F30F),
   (0x1F315, 0x1F315), (0x1F31C, 0x1F31C), (0x1F378, 0x1F378), (0x1F393, 0x1F393),
   (0x1F3A7, 0x1F3A7), (0x1F3AC, 0x1F3AE), (0x1F3C2, 0x1F3C2), (0x1F3C4, 0x1F3C4),
   (0x1F3C6, 0x1F3C6), (0x1F3CA, 0x1F3CA), (0x1F3E0, 0x1F3E0), (0x1F3ED, 0x1F3ED),
   (0x1F408, 0x1F408), (0x1F415, 0x1F415), (0x1F41F, 0x1F41F), (0x1F426, 0x1F426),
   (0x1F442, 0x1F442), (0x1F446, 0x1F449), (0x1F44D, 0x1F44E), (0x1F453, 0x1F453),
   (0x1F46A, 0x1F46A), (0x1F47D, 0x1F47D), (0x1F4A3, 0x1F4A3), (0x1F4B0, 0x1F4B0),
   (0x1F4B3, 0x1F4B3), (0x1F4BB, 0x1F4BB), (0x1F4BF, 0x1F4BF), (0x1F4CB, 0x1F4CB),
   (0x1F4DA, 0x1F4DA), (0x1F4DF, 0x1F4DF), (0x1F4E4, 0x1F4E6), (0x1F4EA, 0x1F4ED),
   (0x1F4F7, 0x1F4F7), (0x1F4F9, 0x1F4FB), (0x1F508, 0x1F508), (0x1F50D, 0x1F50D),
   (0x1F512, 0x1F513), (0x1F550, 0x1F567), (0x1F610, 0x1F610), (0x1F687, 0x1F687),
   (0x1F68D, 0x1F68D), (0x1F691, 0x1F691), (0x1F694, 0x1F694), (0x1F698, 0x1F698),
   (0x1F6AD, 0x1F6AD), (0x1F6B2, 0x1F6B2), (0x1F6B9, 0x1F6BA), (0x1F6BC, 0x1F6BC)]

/-- The pictures that can take a skin tone. -/
def toned : Ranges :=
  [(0x261D, 0x261D), (0x26F9, 0x26F9), (0x270A, 0x270D), (0x1F385, 0x1F385), (0x1F3C2, 0x1F3C4),
   (0x1F3C7, 0x1F3C7), (0x1F3CA, 0x1F3CC), (0x1F442, 0x1F443), (0x1F446, 0x1F450),
   (0x1F466, 0x1F478), (0x1F47C, 0x1F47C), (0x1F481, 0x1F483), (0x1F485, 0x1F487),
   (0x1F48F, 0x1F48F), (0x1F491, 0x1F491), (0x1F4AA, 0x1F4AA), (0x1F574, 0x1F575),
   (0x1F57A, 0x1F57A), (0x1F590, 0x1F590), (0x1F595, 0x1F596), (0x1F645, 0x1F647),
   (0x1F64B, 0x1F64F), (0x1F6A3, 0x1F6A3), (0x1F6B4, 0x1F6B6), (0x1F6C0, 0x1F6C0),
   (0x1F6CC, 0x1F6CC), (0x1F90C, 0x1F90C), (0x1F90F, 0x1F90F), (0x1F918, 0x1F91F),
   (0x1F926, 0x1F926), (0x1F930, 0x1F939), (0x1F93C, 0x1F93E), (0x1F977, 0x1F977),
   (0x1F9B5, 0x1F9B6), (0x1F9B8, 0x1F9B9), (0x1F9BB, 0x1F9BB), (0x1F9CD, 0x1F9CF),
   (0x1F9D1, 0x1F9DD), (0x1FAC3, 0x1FAC5), (0x1FAF0, 0x1FAF8)]

/-- The Khmer letters that are written below the letter before them, behind the sign for it. -/
def stacking : Ranges :=
  [(0x1780, 0x1782), (0x1784, 0x1787), (0x1789, 0x178C), (0x178E, 0x1793), (0x1795, 0x1798),
   (0x179B, 0x179D), (0x17A0, 0x17A0), (0x17A2, 0x17A2), (0x17A7, 0x17A7), (0x17AB, 0x17AC),
   (0x17AF, 0x17AF)]

/-! ## Widths -/

def pictureSelector : Char := '\uFE0F'

def textSelector : Char := '\uFE0E'

/-- The sign that puts a Khmer letter below the one before it. -/
def stackingSign : Char := '\u17D2'

/-- The Hangul letters that are drawn into the syllable before them. -/
def drawnIn : Ranges := [(0x1160, 0x11FF), (0xD7B0, 0xD7C6), (0xD7CB, 0xD7FB)]

/-- Signs before numbers that take a cell of their own. -/
def numberSigns : Ranges :=
  [(0x600, 0x604), (0x6DD, 0x6DD), (0x110BD, 0x110BD), (0x110CD, 0x110CD)]

def soundMarks : Ranges := [(0xFF9E, 0xFF9F)]

/-- Whether a character takes no cell. The joiner of Tifinagh consonants extends the one before it
but is seen. -/
def isWeightless (c : Char) : Bool :=
  ignorable.holds c || drawnIn.holds c || c == '\uA8FA' ||
    (Joining.extending.holds c && c != '\u2D7F') ||
    (Joining.leading.holds c && !numberSigns.holds c)

/-- The number of cells that a character takes on its own. Two Khmer signs stand for two and three
letters, and a sound mark takes a cell besides its own. -/
def ofChar (c : Char) : Nat :=
  if c.toNat < 0xA1 then 1
  else if c = '\u17D8' then 3
  else if c = '\u17A4' || soundMarks.holds c then 2
  else if isWeightless c then 0
  else if wide.holds c then 2
  else 1

/-- Whether a character is a picture without a selector. -/
def isPicture (c : Char) : Bool :=
  wide.holds c && Joining.pictographs.holds c && !textual.holds c

/-- Whether the selector for pictures has a meaning behind a character. -/
def takesPictureSelector (c : Char) : Bool :=
  textual.holds c || selectable.holds c || c.toNat == 0x1F21A || c.toNat == 0x1F22F

/-- What follows in a cluster, as far as it changes the width of what is before it. -/
inductive Behind where
  /-- Nothing that changes anything. -/
  | nothing
  /-- The selector for pictures; `joined` if a joiner and a picture are behind it. -/
  | pictureSelector (joined : Bool)
  | textSelector
  | picture
  | tone
  /-- A joiner with a picture behind it. -/
  | joined
  /-- A letter that can be stacked. -/
  | stackable
  /-- The Kirat Rai vowel sign E. -/
  | signE
  /-- The Kirat Rai vowel sign AI, or two signs that form it. -/
  | signAi
  deriving DecidableEq, Repr

/-- What a character is for the one before it, if nothing behind it matters. -/
def Behind.ofChar (c : Char) : Behind :=
  if c = Width.pictureSelector then .pictureSelector false
  else if c = Width.textSelector then .textSelector
  else if Joining.skinTones.holds c then .tone
  else if isPicture c then .picture
  else if stacking.holds c then .stackable
  else if c.toNat = 0x16D67 then .signE
  else if c.toNat = 0x16D68 then .signAi
  else .nothing

/-- Whether a character can stand between a letter and the sign that stacks it. -/
def isTransparent (c : Char) : Bool :=
  ignorable.holds c && (Joining.extending.holds c || c == Joining.zeroWidthJoiner)

/-- The width of what has been measured together with one more character before it, where what is
behind that character matters; `none` if it does not. -/
def special? (c : Char) (width : Nat) : Behind → Option (Nat × Behind)
  | .nothing => none
  | .pictureSelector joined =>
    if takesPictureSelector c then some (if joined then width else width + 2, .picture) else none
  | .textSelector => if selectable.holds c then some (width + 1, .nothing) else none
  | .picture => if c = Joining.zeroWidthJoiner then some (width, .joined) else none
  | .tone =>
    if c = Joining.zeroWidthJoiner then some (width, .joined)
    else if toned.holds c then some (width, .picture)
    else none
  | .joined =>
    if c = Width.pictureSelector then some (width, .pictureSelector true)
    else if Joining.skinTones.holds c then some (width, .tone)
    else if isPicture c then some (width, .picture)
    else none
  | .stackable =>
    if c = stackingSign then some (width - 1, .nothing)
    else if isTransparent c then some (width, .stackable)
    else none
  | .signE =>
    match c.toNat with
    | 0x16D63 | 0x16D69 => some (width, .nothing)
    | 0x16D67 => some (width, .signAi)
    | 0x16D68 => some (width + 1, .signE)
    | _ => none
  | .signAi => if c.toNat = 0x16D63 then some (width, .nothing) else none

/-- Measures one more character before what has been measured. -/
def measure (c : Char) (measured : Nat × Behind) : Nat × Behind :=
  match special? c measured.1 measured.2 with
  | some measured => measured
  | none => (measured.1 + ofChar c, Behind.ofChar c)

end Width

/-- The number of cells that a cluster takes. -/
def clusterWidth (cluster : List Char) : Nat := (cluster.foldr Width.measure (0, .nothing)).1

/-- Whether a character controls the screen instead of being shown. -/
def isControl (c : Char) : Bool := c.toNat < 0x20 || (0x7F ≤ c.toNat && c.toNat < 0xA0)

/-- The clusters of a text that are shown, with the number of cells that each takes. -/
def shownClusters (cs : List Char) : List (List Char × Nat) :=
  ((clusters cs).filter fun cluster ↦ !cluster.any isControl).map fun cluster ↦
    (cluster, clusterWidth cluster)

end ChipEight
