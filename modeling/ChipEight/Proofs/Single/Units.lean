import Mathlib

/-!
# Numbers in single precision as multiples of a unit

Single precision rounds a number to a mantissa of twenty-four bits, ties to the even one. Bits that
do not fit are shifted out one by one while a round bit and a sticky bit remember what they were.
In arithmetic, `nearestEven d n` is `d / 2 ^ n` rounded, and all that is used of it later are its
distance from `d / 2 ^ n` and what happens halfway.

Every finite number in single precision is a multiple of `2 ^ -149`. So the positive ones can be
reckoned with as natural numbers: `units x` is how many of these units `x` is, and zero if `x` is
not a positive finite number. The order of positive numbers is the order of their units.
-/

namespace ChipEight

namespace Single

open Float.Model Float.Model.UnpackedFloat

/-! ## Rounding in arithmetic -/

/-- `d / 2 ^ n` rounded to the nearest number, or to the even one of two that are equally near. -/
def nearestEven (d n : ℕ) : ℕ :=
  if 2 * (d % 2 ^ n) < 2 ^ n then d / 2 ^ n
  else if 2 * (d % 2 ^ n) = 2 ^ n then d / 2 ^ n + d / 2 ^ n % 2
  else d / 2 ^ n + 1

theorem nearestEven_zero (d : ℕ) : nearestEven d 0 = d := by
  simp [nearestEven, Nat.mod_one]

theorem div_le_nearestEven (d n : ℕ) : d / 2 ^ n ≤ nearestEven d n := by
  rw [nearestEven]
  split
  · exact le_rfl
  · split <;> omega

theorem nearestEven_le (d n : ℕ) : nearestEven d n ≤ d / 2 ^ n + 1 := by
  rw [nearestEven]
  split
  · omega
  · split <;> omega

/-- Rounding is off by at most half a unit, and by exactly that only to get to an even number. -/
theorem nearestEven_spec (d n : ℕ) :
    2 * (nearestEven d n * 2 ^ n) ≤ 2 * d + 2 ^ n ∧ 2 * d ≤ 2 * (nearestEven d n * 2 ^ n) + 2 ^ n ∧
      (2 * d = 2 * (nearestEven d n * 2 ^ n) + 2 ^ n → nearestEven d n % 2 = 0) := by
  have hd := Nat.div_add_mod d (2 ^ n)
  have hr := Nat.mod_lt d (Nat.two_pow_pos n)
  rw [nearestEven]
  generalize d / 2 ^ n = q at *
  generalize d % 2 ^ n = r at *
  generalize 2 ^ n = p at *
  rw [Nat.mul_comm p q] at hd
  split
  · exact ⟨by omega, by omega, by omega⟩
  · split
    · -- halfway: the even one of `q` and `q + 1`
      rcases Nat.mod_two_eq_zero_or_one q with hq | hq
      · rw [hq, Nat.add_zero]
        exact ⟨by omega, by omega, fun _ ↦ hq⟩
      · rw [hq, Nat.add_mul, Nat.one_mul]
        exact ⟨by omega, by omega, by omega⟩
    · rw [Nat.add_mul, Nat.one_mul]
      exact ⟨by omega, by omega, by omega⟩

theorem nearestEven_mul_pow (d n j : ℕ) : nearestEven (d * 2 ^ j) (n + j) = nearestEven d n := by
  have hmod : d * 2 ^ j % 2 ^ (n + j) = d % 2 ^ n * 2 ^ j := by
    rw [Nat.pow_add, Nat.mul_mod_mul_right]
  have hdiv : d * 2 ^ j / 2 ^ (n + j) = d / 2 ^ n := by
    rw [Nat.pow_add, Nat.mul_div_mul_right _ _ (Nat.two_pow_pos j)]
  have hlt : 2 * (d % 2 ^ n * 2 ^ j) < 2 ^ (n + j) ↔ 2 * (d % 2 ^ n) < 2 ^ n := by
    rw [Nat.pow_add, ← Nat.mul_assoc, Nat.mul_lt_mul_right (Nat.two_pow_pos j)]
  have heq : 2 * (d % 2 ^ n * 2 ^ j) = 2 ^ (n + j) ↔ 2 * (d % 2 ^ n) = 2 ^ n := by
    rw [Nat.pow_add, ← Nat.mul_assoc, Nat.mul_left_inj (Nat.two_pow_pos j).ne']
  simp only [nearestEven, hmod, hdiv, hlt, heq]

/-! ## Shifting bits out -/

/-- The round bit is the last bit that was shifted out, and the sticky bit tells whether there was
any other. -/
theorem shiftRight_exact (d n : ℕ) :
    (⟨d, false, false⟩ : ExtendedMantissa) >>> n
      = ⟨d / 2 ^ n, decide (2 ^ n ≤ 2 * (d % 2 ^ n)),
          decide (d % 2 ^ n ≠ 0 ∧ 2 * (d % 2 ^ n) ≠ 2 ^ n)⟩ := by
  induction n with
  | zero => simp [HShiftRight.hShiftRight, Nat.repeat, Nat.mod_one]
  | succ n ih =>
    change ((⟨d, false, false⟩ : ExtendedMantissa) >>> n).shiftRightOne = _
    have hmod : d % 2 ^ (n + 1) = d % 2 ^ n + 2 ^ n * (d / 2 ^ n % 2) := by
      rw [Nat.pow_succ, Nat.mod_mul]
    have hlt := Nat.mod_lt d (Nat.two_pow_pos n)
    have hpow : 2 ^ (n + 1) = 2 * 2 ^ n := Nat.pow_succ'
    have hdiv : d / 2 ^ (n + 1) = d / 2 ^ n / 2 := by
      rw [Nat.pow_succ, Nat.div_div_eq_div_mul]
    rw [ih, ExtendedMantissa.shiftRightOne, hdiv, hmod, hpow]
    have hbit := Nat.mod_two_eq_zero_or_one (d / 2 ^ n)
    -- the bit shifted out becomes the round bit, and the old round bit sticks
    congr 1
    · rw [Bool.eq_iff_iff, bne_iff_ne, decide_eq_true_eq]
      rcases hbit with hbit | hbit
      · rw [hbit]
        omega
      · rw [hbit]
        omega
    · rw [Bool.eq_iff_iff, Bool.or_eq_true, decide_eq_true_eq, decide_eq_true_eq, decide_eq_true_eq]
      rcases hbit with hbit | hbit
      · rw [hbit]
        omega
      · rw [hbit]
        omega

theorem roundedMantissa_shiftRight (d n : ℕ) :
    ((⟨d, false, false⟩ : ExtendedMantissa) >>> n).roundedMantissa = nearestEven d n := by
  rw [shiftRight_exact, nearestEven]
  rcases lt_trichotomy (2 * (d % 2 ^ n)) (2 ^ n) with h | h | h
  · rw [if_pos h, decide_eq_false (Nat.not_le_of_lt h)]
    cases decide (d % 2 ^ n ≠ 0 ∧ 2 * (d % 2 ^ n) ≠ 2 ^ n) <;> rfl
  · rw [if_neg h.not_lt, if_pos h, decide_eq_true h.ge, decide_eq_false (fun hr ↦ hr.2 h)]
    rfl
  · have hr : d % 2 ^ n ≠ 0 ∧ 2 * (d % 2 ^ n) ≠ 2 ^ n := by omega
    rw [if_neg h.not_gt, if_neg h.ne', decide_eq_true h.le, decide_eq_true hr]
    rfl

/-! ## Bit patterns -/

def ofFields (s : Sign) (e : BitVec 8) (m : BitVec 23) : UnpackedFloat :=
  if e = -1#8 then if m = 0#23 then .infinity s else .notANumber
  else if e = 0#8 then
    if h : m = 0#23 then .zero s
    else .finite s m.toNat (-149) (Nat.pos_of_ne_zero fun h0 ↦ h (BitVec.eq_of_toNat_eq h0))
  else .finite s (2 ^ 23 + m.toNat) (e.toNat - 150) (by omega)

theorem hidden_toNat (v : BitVec 23) : (1#1 ++ v).toNat = 2 ^ 23 + v.toNat := by
  rw [BitVec.toNat_append]
  exact (Nat.two_pow_add_eq_or_of_lt v.isLt 1).symm

theorem unpack_eq_ofFields (b : BitVec 32) :
    UnpackedFloat.unpack Format.binary32 b
      = ofFields (.ofBitVec (@unpackSign Format.binary32 b)) (@unpackExponent Format.binary32 b)
          (@unpackMantissa Format.binary32 b) := by
  rw [UnpackedFloat.unpack, ofFields]
  split
  · rfl
  · split
    · next hmin =>
      split
      · rfl
      · simp only [hmin]
        rfl
    · simp only [hidden_toNat]
      rfl

/-! ## Canonical form -/

/-- The finite numbers that have a bit pattern have a mantissa of twenty-four bits, the first of
which is one unless the exponent is the least one. -/
def Canonical : UnpackedFloat → Prop
  | .finite _ m e _ => m < 2 ^ 24 ∧ -149 ≤ e ∧ e ≤ 104 ∧ (2 ^ 23 ≤ m ∨ e = -149)
  | _ => True

theorem canonical_ofFields (s : Sign) (e : BitVec 8) (m : BitVec 23) :
    Canonical (ofFields s e m) := by
  have he := e.isLt
  have hm := m.isLt
  rw [ofFields]
  split
  · split <;> trivial
  · next hmax =>
    have hmax' : e.toNat ≠ 255 := fun h ↦ hmax (BitVec.eq_of_toNat_eq h)
    split
    · split
      · trivial
      · exact ⟨by omega, by omega, by omega, .inr rfl⟩
    · next hmin =>
      have hmin' : e.toNat ≠ 0 := fun h ↦ hmin (BitVec.eq_of_toNat_eq h)
      exact ⟨by omega, by omega, by omega, .inl (by omega)⟩

theorem canonical_unpack (x : Float32.Model) : Canonical x.unpack := by
  rw [Float32.Model.unpack, unpack_eq_ofFields]
  exact canonical_ofFields _ _ _

theorem unpackSign_packComponents {spec : Format} (s : Sign) (e : BitVec spec.exponentBits)
    (m : BitVec spec.mantissaBitsWithoutImplicit) :
    unpackSign (packComponents spec s e m) = s.toBitVec := by
  ext i hi
  obtain rfl : i = 0 := Nat.lt_one_iff.mp hi
  simp [unpackSign, packComponents, BitVec.getLsbD_append, BitVec.getElem_append]

theorem unpack_packComponents (s : Sign) (e : BitVec 8) (m : BitVec 23) :
    UnpackedFloat.unpack Format.binary32 (packComponents Format.binary32 s e m)
      = ofFields s e m := by
  have hs : Sign.ofBitVec s.toBitVec = s := by cases s <;> rfl
  rw [unpack_eq_ofFields, unpackSign_packComponents, unpackExponent_packComponents,
    unpackMantissa_packComponents, hs]

theorem pack_finite {s : Sign} {m : ℕ} {e : ℤ} {hm : 0 < m} (he : e ≤ 104) :
    UnpackedFloat.pack Format.binary32 (.finite s m e hm)
      = packComponents Format.binary32 s
          (if m.log2 + 1 = 24 then BitVec.ofNat 8 (e + 127 + 23).toNat else 0#8)
          (BitVec.ofNat 23 m) := by
  have hrange : ¬2 ^ 8 ≤ (e + 127 + 23).toNat + 1 := by omega
  refine (if_neg hrange).trans ?_
  by_cases hlog : m.log2 + 1 = 24
  · rw [if_pos hlog]
    exact if_pos hlog
  · rw [if_neg hlog]
    exact if_neg hlog

theorem ofFields_normal {s : Sign} {m : ℕ} {e : ℤ} (hm : 0 < m) (hle : 2 ^ 23 ≤ m)
    (hlt : m < 2 ^ 24) (hmin : -149 ≤ e) (hmax : e ≤ 104) :
    ofFields s (BitVec.ofNat 8 (e + 127 + 23).toNat) (BitVec.ofNat 23 m) = .finite s m e hm := by
  have he : (BitVec.ofNat 8 (e + 127 + 23).toNat).toNat = (e + 150).toNat := by
    rw [BitVec.toNat_ofNat]
    omega
  have hmantissa : 2 ^ 23 + (BitVec.ofNat 23 m).toNat = m := by
    rw [BitVec.toNat_ofNat]
    omega
  have hne (v : BitVec 8) (hv : v.toNat = 0 ∨ v.toNat = 255) :
      BitVec.ofNat 8 (e + 127 + 23).toNat ≠ v := by
    intro h
    rw [h] at he
    omega
  rw [ofFields, if_neg (hne _ (.inr rfl)), if_neg (hne _ (.inl rfl))]
  simp only [he, hmantissa]
  congr 1
  omega

theorem ofFields_subnormal {s : Sign} {m : ℕ} (hm : 0 < m) (hlt : m < 2 ^ 23) :
    ofFields s 0#8 (BitVec.ofNat 23 m) = .finite s m (-149) hm := by
  have hmantissa : (BitVec.ofNat 23 m).toNat = m := by
    rw [BitVec.toNat_ofNat]
    omega
  have hne : BitVec.ofNat 23 m ≠ 0#23 := by
    intro h
    rw [h] at hmantissa
    exact hm.ne hmantissa
  rw [ofFields, if_neg (by decide), if_pos rfl, dif_neg hne]
  simp only [hmantissa]

theorem unpack_pack {f : UnpackedFloat} (h : Canonical f) : (Float32.Model.pack f).unpack = f := by
  change UnpackedFloat.unpack Format.binary32 (UnpackedFloat.pack Format.binary32 f) = f
  cases f with
  | infinity s => exact unpack_packComponents s (-1#8) 0#23
  | notANumber => rfl
  | zero s => exact unpack_packComponents s 0#8 0#23
  | finite s m e hm =>
    obtain ⟨hlt, hle, hge, hnormal⟩ := h
    rw [pack_finite hge, unpack_packComponents]
    -- the first bit of a mantissa has no field; a field of zero for the exponent says it is missing
    by_cases hnorm : 2 ^ 23 ≤ m
    · have hlog : m.log2 = 23 := (Nat.log2_eq_iff hm.ne').mpr ⟨hnorm, hlt⟩
      rw [hlog, if_pos rfl]
      exact ofFields_normal hm hnorm hlt hle hge
    · have hlog : m.log2 < 23 := (Nat.log2_lt hm.ne').mpr (Nat.lt_of_not_le hnorm)
      obtain rfl : e = -149 := hnormal.resolve_left hnorm
      rw [if_neg (by omega)]
      exact ofFields_subnormal hm (Nat.lt_of_not_le hnorm)

theorem toBits_inj {x y : Float32} (h : x.toBits = y.toBits) : x = y := by
  obtain ⟨x, hx⟩ := x
  obtain ⟨y, hy⟩ := y
  simp only [Float32.toBits] at h
  subst h
  rfl

/-! ## Units -/

/-- How many units a positive finite number is. -/
def unitsOf : UnpackedFloat → ℕ
  | .finite .positive m e _ => m * 2 ^ (e + 149).toNat
  | _ => 0

/-- The positive finite number with a mantissa and an exponent, counted from the least one. -/
def ofParts (m k : ℕ) (hm : 0 < m) : UnpackedFloat := .finite .positive m (k - 149) hm

@[simp] theorem unitsOf_ofParts {m k : ℕ} (hm : 0 < m) : unitsOf (ofParts m k hm) = m * 2 ^ k := by
  rw [ofParts, unitsOf]
  simp

theorem canonical_ofParts {m k : ℕ} (hm : 0 < m) :
    Canonical (ofParts m k hm) ↔ m < 2 ^ 24 ∧ k ≤ 253 ∧ (2 ^ 23 ≤ m ∨ k = 0) := by
  constructor
  · rintro ⟨hlt, -, hle, hnorm⟩
    exact ⟨hlt, by omega, by omega⟩
  · rintro ⟨hlt, hle, hnorm⟩
    exact ⟨hlt, by omega, by omega, by omega⟩

/-- Only positive finite numbers have units. -/
theorem exists_eq_ofParts {f : UnpackedFloat} (hf : Canonical f) (h : 0 < unitsOf f) :
    ∃ m k hm, f = ofParts m k hm ∧ m < 2 ^ 24 ∧ k ≤ 253 ∧ (2 ^ 23 ≤ m ∨ k = 0) := by
  cases f with
  | finite s m e hm =>
    cases s with
    | negative => exact absurd h (Nat.lt_irrefl 0)
    | positive =>
      obtain ⟨hlt, hle, hge, hnorm⟩ := hf
      obtain ⟨k, hk⟩ := Int.eq_ofNat_of_zero_le (show 0 ≤ e + 149 by omega)
      obtain rfl : e = k - 149 := by omega
      exact ⟨m, k, hm, rfl, hlt, by omega, by omega⟩
  | _ => exact absurd h (Nat.lt_irrefl 0)

theorem mul_two_pow_lt {m k n l : ℕ} (hm : m < 2 ^ 24) (hn : 2 ^ 23 ≤ n) (hkl : k < l) :
    m * 2 ^ k < n * 2 ^ l :=
  calc m * 2 ^ k < 2 ^ 24 * 2 ^ k := Nat.mul_lt_mul_of_pos_right hm (Nat.two_pow_pos k)
    _ = 2 ^ 23 * 2 ^ (k + 1) := by ring
    _ ≤ 2 ^ 23 * 2 ^ l := Nat.mul_le_mul_left _ (Nat.pow_le_pow_right two_pos hkl)
    _ ≤ n * 2 ^ l := Nat.mul_le_mul_right _ hn

theorem compare_eq {f g : UnpackedFloat} (hf : Canonical f) (hg : Canonical g) (hf0 : 0 < unitsOf f)
    (hg0 : 0 < unitsOf g) : f.compare g = some (compare (unitsOf f) (unitsOf g)) := by
  obtain ⟨m, k, hm, rfl, hlt, -, hnorm⟩ := exists_eq_ofParts hf hf0
  obtain ⟨n, l, hn, rfl, hlt', -, hnorm'⟩ := exists_eq_ofParts hg hg0
  rw [unitsOf_ofParts, unitsOf_ofParts]
  change some ((compare ((k : ℤ) - 149) (l - 149)).then (compare m n)) = _
  congr 1
  -- different exponents decide, since a greater one comes with a mantissa of all bits
  rcases lt_trichotomy k l with h | rfl | h
  · have hunits : m * 2 ^ k < n * 2 ^ l := mul_two_pow_lt hlt (hnorm'.resolve_right (by omega)) h
    rw [compare_lt_iff_lt.mpr (by omega : (k : ℤ) - 149 < l - 149), compare_lt_iff_lt.mpr hunits]
    rfl
  · rw [compare_eq_iff_eq.mpr (rfl : (k : ℤ) - 149 = k - 149)]
    change compare m n = _
    simp only [Nat.compare_eq_ite_lt, Nat.mul_lt_mul_right (Nat.two_pow_pos k)]
  · have hunits : n * 2 ^ l < m * 2 ^ k := mul_two_pow_lt hlt' (hnorm.resolve_right (by omega)) h
    rw [compare_gt_iff_gt.mpr (by omega : (l : ℤ) - 149 < k - 149), compare_gt_iff_gt.mpr hunits]
    rfl

/-- The units of a number. -/
def units (x : Float32) : ℕ := unitsOf x.toModel.unpack

variable {x y t : Float32}

theorem le_iff_unpack : x ≤ y ↔ x.toModel.unpack.le y.toModel.unpack = true := decide_eq_true_iff

theorem lt_iff_unpack : x < y ↔ x.toModel.unpack.lt y.toModel.unpack = true := decide_eq_true_iff

theorem le_iff_units (hx : 0 < units x) (hy : 0 < units y) : x ≤ y ↔ units x ≤ units y := by
  rw [le_iff_unpack, UnpackedFloat.le,
    compare_eq (canonical_unpack _) (canonical_unpack _) hx hy, Option.any_some]
  exact Nat.isLE_compare

theorem lt_iff_units (hx : 0 < units x) (hy : 0 < units y) : x < y ↔ units x < units y := by
  rw [lt_iff_unpack, UnpackedFloat.lt,
    compare_eq (canonical_unpack _) (canonical_unpack _) hx hy, beq_iff_eq, Option.some_inj]
  exact Nat.compare_eq_lt

theorem le_of_lt (h : x < y) : x ≤ y := by
  rw [lt_iff_unpack, UnpackedFloat.lt, beq_iff_eq] at h
  rw [le_iff_unpack, UnpackedFloat.le, h]
  rfl

theorem infinite_or_units_pos (ht : 0 < units t) (htx : t ≤ x) :
    x.toModel.unpack = .infinity .positive ∨ 0 < units x := by
  obtain ⟨m, k, hm, hparts, -⟩ := exists_eq_ofParts (canonical_unpack t.toModel) ht
  rw [le_iff_unpack, hparts, UnpackedFloat.le] at htx
  rw [units]
  cases hx : x.toModel.unpack with
  | finite s n e hn =>
    cases s with
    | positive => exact .inr (Nat.mul_pos hn (Nat.two_pow_pos _))
    | negative =>
      rw [hx] at htx
      exact absurd htx Bool.false_ne_true
  | infinity s =>
    cases s with
    | positive => exact .inl rfl
    | negative =>
      rw [hx] at htx
      exact absurd htx Bool.false_ne_true
  | notANumber =>
    rw [hx] at htx
    exact absurd htx Bool.false_ne_true
  | zero s =>
    rw [hx] at htx
    exact absurd htx Bool.false_ne_true

theorem units_pos_of_le (ht : 0 < units t) (htx : t ≤ x) (hxy : x ≤ y) (hy : 0 < units y) :
    0 < units x := by
  refine (infinite_or_units_pos ht htx).resolve_left ?_
  intro hx
  obtain ⟨m, k, hm, hparts, -⟩ := exists_eq_ofParts (canonical_unpack y.toModel) hy
  rw [le_iff_unpack, hx, hparts, UnpackedFloat.le] at hxy
  exact absurd hxy Bool.false_ne_true

theorem le_of_zero (ht : t.toModel.unpack = .zero .positive) (hx : 0 < units x) : t ≤ x := by
  obtain ⟨m, k, hm, hparts, -⟩ := exists_eq_ofParts (canonical_unpack x.toModel) hx
  rw [le_iff_unpack, ht, hparts]
  rfl

theorem le_of_infinite (ht : 0 < units t) (hx : x.toModel.unpack = .infinity .positive) :
    t ≤ x := by
  obtain ⟨m, k, hm, hparts, -⟩ := exists_eq_ofParts (canonical_unpack t.toModel) ht
  rw [le_iff_unpack, hx, hparts]
  rfl

end Single

end ChipEight
