import ChipEight.Proofs.Display.Sprites
import ChipEight.Proofs.Machine.Loading
import ChipEight.Proofs.Machine.Refusals
import Mathlib.Data.List.Perm.Basic

/-!
# Layers of sprites

A picture is built up by drawing one sprite after another. Every sprite flips the pixels it covers,
whatever is on the display, so a drawing is the exclusive or, pixel by pixel, with a picture that
depends on the sprite alone: the one it makes on a display that is blank. The order of the sprites
is then of no importance, and two sprites that are the same cancel out.

A `Layer` is what is drawn and where. `Drawn` follows a list of layers through the machines that
draw them. Nothing is said about what these machines do in between, as long as it leaves the display
alone.
-/

namespace ChipEight

/-- A sprite and the place of its upper left corner, before it is taken around the edges. -/
structure Layer where
  x : UInt8
  y : UInt8
  sprite : List UInt8
  length_lt : sprite.length < 16

namespace Layer

variable {p q : Layer} {d : Display} {layers layers' : List Layer} {px : Fin 64} {py : Fin 32}

/-- Whether a lit pixel of the sprite falls on a pixel of the display. -/
def Covers (p : Layer) (px : Fin 64) (py : Fin 32) : Prop :=
  Display.Covers p.x.toNat p.y.toNat p.sprite px py

/-- The same bytes at the same place of the display. -/
def SameAs (p q : Layer) : Prop :=
  p.x.toNat % 64 = q.x.toNat % 64 ∧ p.y.toNat % 32 = q.y.toNat % 32 ∧ p.sprite = q.sprite

instance (p q : Layer) : Decidable (p.SameAs q) := inferInstanceAs (Decidable (_ ∧ _ ∧ _))

/-- The display after the layer was put on it. -/
def put (d : Display) (p : Layer) : Display := (d.draw p.x.toNat p.y.toNat p.sprite).1

/-- The picture of a layer, which it makes on a blank display. -/
def picture (p : Layer) : Display := put Display.blank p

/-! ## One layer -/

theorem length_le (p : Layer) : p.sprite.length ≤ 32 :=
  Nat.le_trans (Nat.le_of_lt p.length_lt) (by decide)

theorem pixel_put_iff (d : Display) (p : Layer) :
    (put d p).pixel px py = !d.pixel px py ↔ p.Covers px py :=
  Display.pixel_draw p.length_le d _ _ px py

theorem pixel_picture_iff (p : Layer) : p.picture.pixel px py = true ↔ p.Covers px py := by
  have h : p.picture.pixel px py = (!Display.blank.pixel px py) ↔ p.Covers px py :=
    pixel_put_iff Display.blank p
  rwa [Display.pixel_blank, Bool.not_false] at h

theorem pixel_put (d : Display) (p : Layer) (px : Fin 64) (py : Fin 32) :
    (put d p).pixel px py = (d.pixel px py ^^ p.picture.pixel px py) := by
  have h : (put d p).pixel px py = (!d.pixel px py) ↔ p.picture.pixel px py = true :=
    (pixel_put_iff d p).trans p.pixel_picture_iff.symm
  cases hcovered : p.picture.pixel px py with
  | true => rw [h.mpr hcovered, Bool.xor_true]
  | false =>
    rw [hcovered] at h
    rw [Bool.xor_false]
    exact Bool.not_eq_not.mp (mt h.mp Bool.false_ne_true)

/-- A layer turns off a pixel if one is lit that it covers. -/
theorem erased_iff (d : Display) (p : Layer) :
    (d.draw p.x.toNat p.y.toNat p.sprite).2 = true ↔
      ∃ px py, d.pixel px py = true ∧ p.Covers px py :=
  Display.erased_draw_iff p.length_le d _ _

theorem SameAs.covers_iff (h : p.SameAs q) : p.Covers px py ↔ q.Covers px py := by
  obtain ⟨hx, hy, hsprite⟩ := h
  have hrow (r : ℕ) : (p.y.toNat + r) % 32 = (q.y.toNat + r) % 32 := by omega
  have hcolumn (c : ℕ) : (p.x.toNat + c) % 64 = (q.x.toNat + c) % 64 := by omega
  rw [Covers, Covers, Display.Covers, Display.Covers]
  simp only [hsprite, hrow, hcolumn]

theorem SameAs.picture_eq (h : p.SameAs q) : p.picture = q.picture := by
  refine Display.ext_pixel fun px py ↦ Bool.eq_iff_iff.mpr ?_
  rw [pixel_picture_iff, pixel_picture_iff, h.covers_iff]

instance : RightCommutative put where
  right_comm d p q := by
    refine Display.ext_pixel fun px py ↦ ?_
    rw [pixel_put, pixel_put, pixel_put, pixel_put, Bool.xor_right_comm]

theorem put_put_of_sameAs (d : Display) (h : p.SameAs q) : put (put d p) q = d := by
  refine Display.ext_pixel fun px py ↦ ?_
  rw [pixel_put, pixel_put, h.picture_eq, Bool.xor_assoc, Bool.xor_self, Bool.xor_false]

/-! ## Lists of layers -/

/-- The display after one layer after another was put on it. -/
def putAll (d : Display) (layers : List Layer) : Display := layers.foldl put d

theorem putAll_of_perm (d : Display) (h : layers.Perm layers') :
    putAll d layers = putAll d layers' :=
  h.foldl_eq d

/-- Two layers that are the same cancel out, wherever they stand. -/
theorem putAll_cancel (d : Display) (h : p.SameAs q) (front between back : List Layer) :
    putAll d (front ++ p :: between ++ q :: back) = putAll d (front ++ between ++ back) := by
  have hperm : (front ++ p :: between ++ q :: back).Perm
      (p :: q :: (front ++ between ++ back)) := by
    have hq : (front ++ p :: between ++ q :: back).Perm (q :: (front ++ p :: between ++ back)) :=
      List.perm_middle
    have hp : (front ++ p :: between ++ back).Perm (p :: (front ++ between ++ back)) := by
      rw [List.append_assoc, List.append_assoc]
      exact List.perm_middle
    exact (hq.trans (hp.cons q)).trans (.swap p q _)
  rw [putAll_of_perm d hperm, putAll, List.foldl_cons, List.foldl_cons, put_put_of_sameAs d h]
  rfl

end Layer

/-! ## Machines that draw -/

namespace Machine

open Word

variable {m after m' after' : Machine} {p q : Layer} {outcome outcome' : Outcome}

/-- The next cycle is to draw a layer: the word is `Dxyn`, the registers hold the place and the
sprite is the block of `n` bytes at `I`. -/
def Draws (m : Machine) (p : Layer) : Prop :=
  ∃ w, m.AtWord w ∧ family w = 0xD ∧ m.reg (x w) = p.x ∧ m.reg (y w) = p.y ∧
    m.memory.block m.index.toNat (n w).val = p.sprite

theorem step_of_draws (h : m.Draws p) (hstep : m.step = .ok outcome after) :
    after.display = Layer.put m.display p ∧
      after.reg flag = if (m.display.draw p.x.toNat p.y.toNat p.sprite).2 then 1 else 0 := by
  obtain ⟨w, hw, hfamily, hx, hy, hsprite⟩ := h
  obtain ⟨-, -, -, rfl⟩ := commit_of_step hw hstep
  rw [Instruction.decode_of_fits (i := .draw _ _ _) ⟨hfamily, rfl, rfl, rfl⟩, Layer.put, ← hx,
    ← hy, ← hsprite]
  exact ⟨rfl, reg_setReg_self _ _ _⟩

/-- A machine about to draw a layer on a display, with the sprite at the bottom of memory. -/
def drawing (d : Display) (p : Layer) : Machine :=
  { ((powerOn ⟨0, 0⟩).setReg (.ofNat 0) p.x).setReg (.ofNat 1) p.y with
    memory := (Memory.zero.write 0 p.sprite).write programStart
      [0xD0, 0x10 + UInt8.ofNat p.sprite.length]
    display := d }

theorem display_drawing (d : Display) (p : Layer) : (drawing d p).display = d := rfl

theorem atWord_drawing (d : Display) (p : Layer) :
    (drawing d p).AtWord (UInt16.ofNat (0xD010 + p.sprite.length)) := by
  have hn := p.length_lt
  have hhigh : (drawing d p).memory.byte 0x200 = 0xD0 :=
    Memory.byte_write (k := 0) (by simp [programStart, memorySize]) (by simp)
  have hlow : (drawing d p).memory.byte 0x201 = 0x10 + UInt8.ofNat p.sprite.length :=
    Memory.byte_write (k := 1) (by simp [programStart, memorySize]) (by simp)
  change _ = 0x100 * ((drawing d p).memory.byte 0x200).toNat
    + ((drawing d p).memory.byte 0x201).toNat
  rw [hhigh, hlow, UInt16.toNat_ofNat', UInt8.toNat_add, UInt8.toNat_ofNat']
  simp
  omega

theorem draws_drawing (d : Display) (p : Layer) : (drawing d p).Draws p := by
  have hn := p.length_lt
  obtain ⟨hfamily, hx, hy, hheight⟩ := Instruction.fits_draw (r := .ofNat 0) (s := .ofNat 1)
    (k := ⟨p.sprite.length, hn⟩) (w := UInt16.ofNat (0xD010 + p.sprite.length)) (by
      rw [UInt16.toNat_ofNat']
      simp [Nibble.ofNat]
      omega)
  have hreg (k : Nibble) : (drawing d p).reg k
      = (((powerOn ⟨0, 0⟩).setReg (.ofNat 0) p.x).setReg (.ofNat 1) p.y).reg k := by
    simp only [drawing, reg]
  refine ⟨_, atWord_drawing d p, hfamily, ?_, ?_, ?_⟩
  · rw [← hx, hreg, reg_setReg_of_ne _ _ (by decide), reg_setReg_self]
  · rw [← hy, hreg, reg_setReg_self]
  · rw [← hheight]
    change Memory.block (Memory.write _ _ _) 0 _ = _
    rw [Memory.block_write_of_le (by rw [programStart]; omega)]
    exact Memory.block_write (by rw [memorySize]; omega)

theorem exists_step_of_draws (h : m.Draws p) (hpc : m.pc.toNat ≤ 0xFFE)
    (hblock : m.index.toNat + p.sprite.length ≤ memorySize) :
    ∃ outcome after, m.step = .ok outcome after := by
  obtain ⟨w, hw, hfamily, -, -, hsprite⟩ := h
  have hlength : p.sprite.length = (n w).val := by
    rw [← hsprite, Memory.block, List.length_map, List.length_range]
  have hrefusal : m.refusal? (.draw (x w) (y w) (n w)) = none :=
    if_pos (hlength ▸ hblock)
  have hdecode : Instruction.decode w = .draw (x w) (y w) (n w) :=
    Instruction.decode_of_fits ⟨hfamily, rfl, rfl, rfl⟩
  exact ⟨_, _, step_eq_ok_iff.mpr
    ⟨w, fetch_of_atWord hpc hw, hdecode ▸ hrefusal, rfl, rfl⟩⟩

/-- Every layer can be drawn on every display. -/
theorem exists_step_drawing (d : Display) (p : Layer) :
    ∃ outcome after, (drawing d p).step = .ok outcome after := by
  have hn := p.length_lt
  have hpc : (drawing d p).pc.toNat = 0x200 := rfl
  have hindex : (drawing d p).index.toNat = 0 := rfl
  refine exists_step_of_draws (draws_drawing d p) ?_ ?_
  · rw [hpc]
    decide
  · rw [hindex, memorySize]
    omega

end Machine

/-- One layer after another is drawn by a cycle that succeeds, and the display stays as it is from
one of these cycles to the next. -/
inductive Drawn : Display → List Layer → Display → Prop
  | nil (d : Display) : Drawn d [] d
  | cons {m after : Machine} {outcome : Outcome} {p : Layer} {layers : List Layer} {e : Display}
      (hdraws : m.Draws p) (hstep : m.step = .ok outcome after)
      (hrest : Drawn after.display layers e) : Drawn m.display (p :: layers) e

namespace Layer

variable {d e : Display} {layers layers' : List Layer} {m after m' after' : Machine}
  {outcome outcome' : Outcome} {p q : Layer}

/-- What the machines make of the display is what the layers make of it, and every list of layers
can be drawn. -/
theorem drawn_iff : Drawn d layers e ↔ e = putAll d layers := by
  constructor
  · intro h
    induction h with
    | nil => rfl
    | cons hdraws hstep _ ih =>
      rw [ih, (Machine.step_of_draws hdraws hstep).1]
      rfl
  · rintro rfl
    induction layers generalizing d with
    | nil => exact .nil d
    | cons p layers ih =>
      obtain ⟨outcome, after, hstep⟩ := Machine.exists_step_drawing d p
      have hdraws := Machine.draws_drawing d p
      refine .cons (m := Machine.drawing d p) hdraws hstep ?_
      rw [(Machine.step_of_draws hdraws hstep).1]
      exact ih

theorem flag_of_repetition (hdraws : m.Draws p) (hstep : m.step = .ok outcome after)
    (hsame : p.SameAs q) (hdisplay : m'.display = after.display) (hdraws' : m'.Draws q)
    (hstep' : m'.step = .ok outcome' after') :
    after'.reg Machine.flag = 1 ↔ ∃ px py, p.Covers px py ∧ m.display.pixel px py = false := by
  have hflag : after'.reg Machine.flag = 1 ↔
      ∃ px py, m'.display.pixel px py = true ∧ q.Covers px py := by
    rw [(Machine.step_of_draws hdraws' hstep').2, ← q.erased_iff m'.display]
    exact ite_eq_left_iff.trans ⟨fun h ↦ by_contra fun hno ↦ absurd (h hno) (by decide), absurd⟩
  rw [hflag, hdisplay, (Machine.step_of_draws hdraws hstep).1]
  refine exists_congr fun px ↦ exists_congr fun py ↦ ?_
  rw [← hsame.covers_iff, and_comm]
  refine and_congr_right fun hcovers ↦ ?_
  rw [(pixel_put_iff m.display p).mpr hcovers, Bool.not_eq_true']

/-- **Layers commute and cancel.** Whatever is on the display, every list of layers can be drawn on
it. What comes of it does not depend on their order, and does not change if two that are the same
are left out, wherever they stand. If a layer is drawn twice in a row, the second time leaves `1` in
the flag exactly if a pixel was unlit before the first time that the sprite covers. -/
theorem commute_and_cancel (d : Display) :
    (∀ layers, ∃ e, Drawn d layers e) ∧
      (∀ layers layers' e e', layers.Perm layers' → Drawn d layers e → Drawn d layers' e' →
        e = e') ∧
      (∀ front p between q back e, p.SameAs q →
        (Drawn d (front ++ p :: between ++ q :: back) e ↔ Drawn d (front ++ between ++ back) e)) ∧
      ∀ (p q : Layer) (m after m' after' : Machine) outcome outcome', m.display = d → m.Draws p →
        m.step = .ok outcome after → p.SameAs q → m'.display = after.display → m'.Draws q →
        m'.step = .ok outcome' after' →
        (after'.reg Machine.flag = 1 ↔ ∃ px py, p.Covers px py ∧ d.pixel px py = false) := by
  refine ⟨?_, ?_, ?_, ?_⟩
  · exact fun layers ↦ ⟨_, drawn_iff.mpr rfl⟩
  · intro layers layers' e e' hperm h h'
    rw [drawn_iff.mp h, drawn_iff.mp h', putAll_of_perm d hperm]
  · intro front p between q back e hsame
    rw [drawn_iff, drawn_iff, putAll_cancel d hsame]
  · rintro p q m after m' after' outcome outcome' rfl hdraws hstep hsame hdisplay hdraws' hstep'
    exact flag_of_repetition hdraws hstep hsame hdisplay hdraws' hstep'

/-- Half a byte across the right edge of the bottom row. -/
def corner : Layer := ⟨62, 31, [0xF0], by decide⟩

/-- The same once more around both edges. -/
def cornerTurned : Layer := ⟨126, 255, [0xF0], by decide⟩

/-- A byte at the left edge of the bottom row, over the corner. -/
def bar : Layer := ⟨0, 31, [0xFF], by decide⟩

/-- The corner and the bar can be drawn in either order, the corner goes away when it is drawn again
after the bar, and on a blank display the second corner in a row turns off all of the first. -/
theorem commute_and_cancel_corner :
    (∃ e, Drawn Display.blank [corner, bar] e ∧ Drawn Display.blank [bar, corner] e) ∧
      (∃ e, Drawn Display.blank [corner, bar, cornerTurned] e ∧ Drawn Display.blank [bar] e) ∧
      ∃ (m after : Machine) (outcome : Outcome), m.Draws cornerTurned ∧ m.step = .ok outcome after ∧
        after.reg Machine.flag = 1 := by
  have hsame : corner.SameAs cornerTurned := by decide
  obtain ⟨hdraw, horder, hcancel, hflag⟩ := commute_and_cancel Display.blank
  refine ⟨?_, ?_, ?_⟩
  · obtain ⟨e, h⟩ := hdraw [corner, bar]
    obtain ⟨e', h'⟩ := hdraw [bar, corner]
    obtain rfl := horder _ _ e e' (.swap bar corner []) h h'
    exact ⟨e, h, h'⟩
  · obtain ⟨e, h⟩ := hdraw [bar]
    exact ⟨e, (hcancel [] corner [bar] cornerTurned [] e hsame).mpr h, h⟩
  · obtain ⟨outcome, after, hstep⟩ := Machine.exists_step_drawing Display.blank corner
    obtain ⟨outcome', after', hstep'⟩ := Machine.exists_step_drawing after.display cornerTurned
    refine ⟨_, after', outcome', Machine.draws_drawing _ _, hstep', ?_⟩
    refine (hflag corner cornerTurned _ after _ after' outcome outcome'
      (Machine.display_drawing _ _) (Machine.draws_drawing _ _) hstep hsame
      (Machine.display_drawing _ _) (Machine.draws_drawing _ _) hstep').mpr ?_
    exact ⟨62, 31, ⟨0, 0xF0, rfl, rfl, 0, by decide, rfl, by decide⟩, Display.pixel_blank 62 31⟩

end Layer

end ChipEight
