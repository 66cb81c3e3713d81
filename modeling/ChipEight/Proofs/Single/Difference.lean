import ChipEight.Proofs.Single.Rounding

/-!
# Differences

The difference of two positive numbers is a whole number of units, so nothing is lost at its lower
end: the difference in single precision is the exact one, rounded to twenty-four bits.
-/

namespace ChipEight

namespace Single

open Float.Model Float.Model.UnpackedFloat

theorem decreaseExponent_eq (m k s : ℕ) :
    (decreaseExponent m ((k : ℤ) - 149) (s - 149)).1 = m * 2 ^ (k - s) := by
  have hshift : ((k : ℤ) - 149 - (s - 149)).toNat = k - s := by omega
  rw [decreaseExponent, hshift, Nat.shiftLeft_eq]

/-- Positive numbers are subtracted at the lesser one of their exponents. -/
theorem sub_ofParts {m k n l : ℕ} (hm : 0 < m) (hn : 0 < n) :
    UnpackedFloat.sub Format.binary32 (ofParts m k hm) (ofParts n l hn)
      = UnpackedFloat.normalize Format.binary32
          ((m * 2 ^ (k - min k l) : ℕ) - (n * 2 ^ (l - min k l) : ℕ)) ((min k l : ℕ) - 149)
          .positive := by
  have hmin : min ((k : ℤ) - 149) (l - 149) = ((min k l : ℕ) : ℤ) - 149 := by omega
  rw [ofParts, ofParts, UnpackedFloat.sub]
  simp only [hmin, decreaseExponent_eq]
  rfl

theorem normalize_of_pos {d : ℕ} (hd : 0 < d) (e : ℤ) :
    UnpackedFloat.normalize Format.binary32 d e .positive
      = UnpackedFloat.round Format.binary32 .positive d e := by
  rw [UnpackedFloat.normalize, compare_gt_iff_gt.mpr (Int.natCast_pos.mpr hd)]
  rfl

variable {x y : Float32}

theorem toModel_sub (hy : 0 < units y) (hle : units y ≤ units x) :
    ∃ d s : ℕ, d * 2 ^ s = units x - units y ∧
      (x - y).toModel = .pack (UnpackedFloat.normalize Format.binary32 d (s - 149) .positive) := by
  obtain ⟨m, k, hm, hx, -⟩ := exists_eq_ofParts (canonical_unpack x.toModel) (hy.trans_le hle)
  obtain ⟨n, l, hn, hy, -⟩ := exists_eq_ofParts (canonical_unpack y.toModel) hy
  have hux : m * 2 ^ (k - min k l) * 2 ^ min k l = units x := by
    rw [units, hx, unitsOf_ofParts, Nat.mul_assoc, ← Nat.pow_add,
      Nat.sub_add_cancel (Nat.min_le_left k l)]
  have huy : n * 2 ^ (l - min k l) * 2 ^ min k l = units y := by
    rw [units, hy, unitsOf_ofParts, Nat.mul_assoc, ← Nat.pow_add,
      Nat.sub_add_cancel (Nat.min_le_right k l)]
  have hle' : n * 2 ^ (l - min k l) ≤ m * 2 ^ (k - min k l) := by
    rw [← hux, ← huy] at hle
    exact Nat.le_of_mul_le_mul_right hle (Nat.two_pow_pos _)
  refine ⟨m * 2 ^ (k - min k l) - n * 2 ^ (l - min k l), min k l, ?_, ?_⟩
  · rw [Nat.sub_mul, hux, huy]
  · rw [Nat.cast_sub hle', ← sub_ofParts hm hn, ← hx, ← hy]
    rfl

/-- **Differences.** The difference of a positive number and one that is not greater is the exact
difference, rounded. -/
theorem units_sub (hy : 0 < units y) (hle : units y ≤ units x) (hmax : units x < 2 ^ 250) :
    units (x - y) = roundUnits (units x - units y) := by
  obtain ⟨d, s, hd, hmodel⟩ := toModel_sub hy hle
  rw [units, hmodel, ← hd]
  rcases Nat.eq_zero_or_pos d with rfl | hpos
  · rw [Nat.zero_mul]
    exact congrArg unitsOf (unpack_pack (f := .zero .positive) trivial)
  · have hlt : d * 2 ^ s < 2 ^ 250 := by omega
    obtain ⟨hcanonical, hunits⟩ := round_spec hpos hlt
    rw [normalize_of_pos hpos, unpack_pack hcanonical, hunits]

theorem unpack_sub_self (hy : 0 < units y) (heq : units x = units y) :
    (x - y).toModel.unpack = .zero .positive := by
  obtain ⟨d, s, hd, hmodel⟩ := toModel_sub hy heq.ge
  rw [heq, Nat.sub_self, Nat.mul_eq_zero] at hd
  obtain rfl : d = 0 := hd.resolve_right (Nat.two_pow_pos s).ne'
  rw [hmodel]
  exact unpack_pack trivial

theorem sub_lt_iff (hy : 0 < units y) (hle : units y ≤ units x) (hmax : units x < 2 ^ 250) :
    x - y < x ↔ units (x - y) < units x := by
  have hx := hy.trans_le hle
  rcases Nat.eq_zero_or_pos (units (x - y)) with hzero | hpos
  · -- rounding makes no positive difference vanish, so this one is zero
    have heq : units x = units y := by
      by_contra hne
      have hround := roundUnits_pos (u := units x - units y) (by omega)
      rw [← units_sub hy hle hmax, hzero] at hround
      exact hround.ne rfl
    obtain ⟨m, k, hm, hparts, -⟩ := exists_eq_ofParts (canonical_unpack x.toModel) hx
    rw [lt_iff_unpack, unpack_sub_self hy heq, hparts, hzero]
    exact iff_of_true rfl hx
  · exact lt_iff_units hpos hx

theorem units_sub_zero (hx : 0 < units x) (hy : y.toModel.unpack = .zero .positive) :
    units (x - y) = units x := by
  have hcanonical := canonical_unpack x.toModel
  obtain ⟨m, k, hm, hparts, -⟩ := exists_eq_ofParts hcanonical hx
  have hsub : (x - y).toModel
      = .pack (UnpackedFloat.sub Format.binary32 (ofParts m k hm) (.zero .positive)) := by
    rw [← hparts, ← hy]
    rfl
  rw [hparts] at hcanonical
  rw [units, units, hparts, hsub]
  exact congrArg unitsOf (unpack_pack hcanonical)

/-! ## Absorption -/

/-- More than half a unit in the last place is never absorbed. -/
theorem units_sub_lt {p : ℕ} (hle : units y ≤ units x) (hx : units x < 2 ^ (24 + p))
    (hp : p ≤ 226) (hy : 2 ^ p < 2 * units y) : units (x - y) < units x := by
  have hpos : 0 < units y := by
    have := Nat.two_pow_pos p
    omega
  have hmax : units x < 2 ^ 250 := hx.trans_le (Nat.pow_le_pow_right two_pos (by omega))
  rw [units_sub hpos hle hmax]
  rcases Nat.eq_zero_or_pos (units x - units y) with hzero | hu
  · rw [hzero]
    exact hpos.trans_le hle
  · have hlog : (units x - units y).log2 < 24 + p := (Nat.log2_lt hu.ne').mpr (by omega)
    have hpow : 2 ^ ((units x - units y).log2 - 23) ≤ 2 ^ p :=
      Nat.pow_le_pow_right two_pos (by omega)
    have hspec := (nearestEven_spec (units x - units y) ((units x - units y).log2 - 23)).1
    rw [roundUnits]
    omega

/-- A little less than a mantissa that is not the least one has as many bits. -/
theorem log2_mul_two_pow_sub {m p u : ℕ} (hlo : 2 ^ 23 < m) (hhi : m < 2 ^ 24) (hu : u ≤ 2 ^ p) :
    (m * 2 ^ p - u).log2 = 23 + p := by
  have hlow : (2 ^ 23 + 1) * 2 ^ p ≤ m * 2 ^ p := Nat.mul_le_mul_right _ hlo
  have hhigh : m * 2 ^ p < 2 ^ 24 * 2 ^ p := Nat.mul_lt_mul_of_pos_right hhi (Nat.two_pow_pos p)
  have hpos := Nat.two_pow_pos p
  have hne : m * 2 ^ p - u ≠ 0 := by omega
  rw [Nat.log2_eq_iff hne, Nat.pow_add, Nat.add_right_comm, Nat.pow_add]
  omega

/-- At most half a unit in the last place is absorbed by an even mantissa, and takes an odd one down
to the even one below. -/
theorem roundUnits_sub {m p u : ℕ} (hlo : 2 ^ 23 < m) (hhi : m < 2 ^ 24) (hpos : 0 < u)
    (hu : 2 * u ≤ 2 ^ p) :
    roundUnits (m * 2 ^ p - u) = m * 2 ^ p ∨
      m % 2 = 1 ∧ roundUnits (m * 2 ^ p - u) = (m - 1) * 2 ^ p := by
  have hlog : (m * 2 ^ p - u).log2 - 23 = p := by
    rw [log2_mul_two_pow_sub hlo hhi (by omega), Nat.add_sub_cancel_left]
  obtain ⟨hle, hge, htie⟩ := nearestEven_spec (m * 2 ^ p - u) p
  rw [roundUnits, hlog]
  generalize nearestEven (m * 2 ^ p - u) p = r at *
  generalize 2 ^ p = q at *
  have hrm : r ≤ m := by
    by_contra h
    have hmul := Nat.mul_le_mul_right q (Nat.lt_of_not_le h)
    rw [Nat.succ_mul] at hmul
    omega
  have hmr : m ≤ r + 1 := by
    by_contra h
    have hmul := Nat.mul_le_mul_right q (Nat.lt_of_not_le h)
    rw [Nat.succ_mul, Nat.succ_mul] at hmul
    omega
  rcases Nat.eq_or_lt_of_le hrm with rfl | hlt
  · exact .inl rfl
  · -- one below: only halfway, and then to an even mantissa
    obtain rfl : m = r + 1 := by omega
    have hmul : (r + 1) * q = r * q + q := Nat.succ_mul r q
    have heven := htie (by omega)
    exact .inr ⟨by omega, rfl⟩

end Single

end ChipEight
