import ChipEight.Proofs.Single.Units

/-!
# Rounding

A mantissa is rounded in two steps: it is shifted to the exponent that leaves it twenty-four bits
and rounded there, and shifted once more if that carried into a twenty-fifth bit. As far as units
are concerned the second step changes nothing, so the units of the result are the rounded mantissa,
shifted back.

An exact mantissa is a whole number of units. What comes of it depends on these units only, and is
their number rounded to twenty-four bits.
-/

namespace ChipEight

namespace Single

open Float.Model Float.Model.UnpackedFloat

/-! ## Rounding to a target exponent -/

theorem targetExponent_eq (t : ℤ) : Format.binary32.targetExponent t = max (t - 24) (-149) := rfl

theorem log2_sub_of_lt {m : ℕ} (h : m < 2 ^ 24) : m.log2 - 23 = 0 := by
  rcases Nat.eq_zero_or_pos m with rfl | hm
  · rfl
  · have := (Nat.log2_lt hm.ne').mpr h
    omega

theorem le_log2_of_le {m : ℕ} (h : 2 ^ 23 ≤ m) : 23 ≤ m.log2 :=
  (Nat.le_log2 (by omega)).mpr h

/-- A mantissa that has its twenty-four bits, or the least exponent, is shifted to twenty-four
bits. -/
theorem shiftToTargetExponent_eq {m j : ℕ} (hm : 2 ^ 23 ≤ m ∨ j = 0) (accuracy : Accuracy) :
    shiftToTargetExponent Format.binary32 m (j - 149) accuracy
      = (ExtendedMantissa.ofMantissaAndAccuracy m accuracy >>> (m.log2 - 23),
          ((m.log2 - 23 + j : ℕ) : ℤ) - 149) := by
  have hlog : 23 ≤ m.log2 ∨ j = 0 := hm.imp_left le_log2_of_le
  have hshift : (Format.binary32.targetExponent (totalExponent m (j - 149)) - (j - 149)).toNat
      = m.log2 - 23 := by
    rw [targetExponent_eq, totalExponent]
    omega
  rw [shiftToTargetExponent, shiftToExponent, hshift]
  simp only [Prod.mk.injEq, true_and]
  omega

theorem mantissa_shiftRight (m n : ℕ) :
    (ExtendedMantissa.ofMantissaAndAccuracy m .exact >>> n).mantissa = m / 2 ^ n :=
  congrArg ExtendedMantissa.mantissa (shiftRight_exact m n)

/-- Rounding to the mantissa `r`, which may have carried into a twenty-fifth bit. -/
theorem roundWithAccuracy_eq {m j r : ℕ} {accuracy : Accuracy} (hm : 2 ^ 23 ≤ m ∨ j = 0)
    (hr : (ExtendedMantissa.ofMantissaAndAccuracy m accuracy >>> (m.log2 - 23)).roundedMantissa = r)
    (hpos : 0 < r) (hle : r ≤ 2 ^ 24) (hnorm : 2 ^ 23 ≤ r ∨ m.log2 - 23 + j = 0) :
    roundWithAccuracy Format.binary32 .positive m (j - 149) accuracy
      = if r = 2 ^ 24 then ofParts (2 ^ 23) (m.log2 - 23 + j + 1) (Nat.two_pow_pos 23)
        else ofParts r (m.log2 - 23 + j) hpos := by
  rw [roundWithAccuracy, shiftToTargetExponent_eq hm]
  simp only [hr]
  generalize m.log2 - 23 + j = k at *
  -- the second shift moves nothing unless there was a carry
  simp only [shiftToTargetExponent_eq hnorm, mantissa_shiftRight]
  by_cases hcarry : r = 2 ^ 24
  · have hlog : r.log2 - 23 = 1 := by rw [hcarry, Nat.log2_two_pow]
    have hhalf : r / 2 ^ 1 = 2 ^ 23 := by rw [hcarry]; rfl
    simp only [hlog, hhalf]
    rw [dif_neg (Nat.two_pow_pos 23).ne', if_pos hcarry, ofParts]
    congr 1
    omega
  · have hlog := log2_sub_of_lt (Nat.lt_of_le_of_ne hle hcarry)
    simp only [hlog, Nat.pow_zero, Nat.div_one, Nat.zero_add]
    rw [dif_neg hpos.ne', if_neg hcarry, ofParts]

/-- What comes of a rounded mantissa `r` has a bit pattern, and `r` is its mantissa as far as the
units are concerned. -/
theorem canonical_carry {r k : ℕ} (hpos : 0 < r) (hle : r ≤ 2 ^ 24) (hnorm : 2 ^ 23 ≤ r ∨ k = 0)
    (hmax : k ≤ 252) {f : UnpackedFloat}
    (hf : f = if r = 2 ^ 24 then ofParts (2 ^ 23) (k + 1) (Nat.two_pow_pos 23)
      else ofParts r k hpos) :
    Canonical f ∧ unitsOf f = r * 2 ^ k := by
  by_cases hcarry : r = 2 ^ 24
  · rw [if_pos hcarry] at hf
    rw [hf, canonical_ofParts, unitsOf_ofParts, hcarry]
    exact ⟨⟨by decide, by omega, .inl le_rfl⟩, by ring⟩
  · rw [if_neg hcarry] at hf
    rw [hf, canonical_ofParts, unitsOf_ofParts]
    exact ⟨⟨Nat.lt_of_le_of_ne hle hcarry, by omega, hnorm⟩, rfl⟩

/-! ## Rounding units -/

/-- A number of units rounded to twenty-four bits. -/
def roundUnits (u : ℕ) : ℕ := nearestEven u (u.log2 - 23) * 2 ^ (u.log2 - 23)

theorem log2_mul_two_pow {m : ℕ} (hm : 0 < m) (j : ℕ) : (m * 2 ^ j).log2 = m.log2 + j := by
  rw [Nat.log2_eq_iff (Nat.mul_pos hm (Nat.two_pow_pos j)).ne']
  constructor
  · rw [Nat.pow_add]
    exact Nat.mul_le_mul_right _ (Nat.log2_self_le hm.ne')
  · rw [Nat.add_right_comm, Nat.pow_add]
    exact Nat.mul_lt_mul_of_pos_right Nat.lt_log2_self (Nat.two_pow_pos j)

theorem roundUnits_mul {m j : ℕ} (hpos : 0 < m) (hm : 2 ^ 23 ≤ m ∨ j = 0) :
    roundUnits (m * 2 ^ j) = nearestEven m (m.log2 - 23) * 2 ^ (m.log2 - 23 + j) := by
  have hlog : (m * 2 ^ j).log2 - 23 = m.log2 - 23 + j := by
    rw [log2_mul_two_pow hpos]
    rcases hm with hm | rfl
    · have := le_log2_of_le hm
      omega
    · rfl
  rw [roundUnits, hlog, nearestEven_mul_pow]

theorem nearestEven_bounds {m : ℕ} (hpos : 0 < m) :
    0 < nearestEven m (m.log2 - 23) ∧ nearestEven m (m.log2 - 23) ≤ 2 ^ 24 ∧
      (2 ^ 23 ≤ m → 2 ^ 23 ≤ nearestEven m (m.log2 - 23)) := by
  have hle := div_le_nearestEven m (m.log2 - 23)
  have hge := nearestEven_le m (m.log2 - 23)
  rcases Nat.lt_or_ge m (2 ^ 23) with hlt | hge'
  · rw [log2_sub_of_lt (hlt.trans (by decide)), nearestEven_zero]
    omega
  · have hlog := le_log2_of_le hge'
    have hlow : 2 ^ 23 ≤ m / 2 ^ (m.log2 - 23) := by
      rw [Nat.le_div_iff_mul_le (Nat.two_pow_pos _), ← Nat.pow_add, Nat.add_sub_cancel' hlog]
      exact Nat.log2_self_le hpos.ne'
    have hhigh : m / 2 ^ (m.log2 - 23) < 2 ^ 24 := by
      rw [Nat.div_lt_iff_lt_mul (Nat.two_pow_pos _), ← Nat.pow_add,
        show 24 + (m.log2 - 23) = m.log2 + 1 by omega]
      exact Nat.lt_log2_self
    omega

theorem roundUnits_pos {u : ℕ} (hu : 0 < u) : 0 < roundUnits u :=
  Nat.mul_pos (nearestEven_bounds hu).1 (Nat.two_pow_pos _)

/-- An exact mantissa is brought to twenty-four bits, as far as the least exponent allows, before it
is rounded. -/
theorem round_eq {d : ℕ} (hd : 0 < d) (i : ℕ) :
    ∃ m j : ℕ, (2 ^ 23 ≤ m ∨ j = 0) ∧ m * 2 ^ j = d * 2 ^ i ∧
      UnpackedFloat.round Format.binary32 .positive d (i - 149)
        = roundWithAccuracy Format.binary32 .positive m (j - 149) .exact := by
  have hshift : ((i : ℤ) - 149 - Format.binary32.targetExponent (totalExponent d (i - 149))).toNat
      = min i (23 - d.log2) := by
    rw [targetExponent_eq, totalExponent]
    omega
  generalize hk : min i (23 - d.log2) = k at hshift
  have hki : k ≤ i := hk ▸ Nat.min_le_left _ _
  refine ⟨d * 2 ^ k, i - k, ?_, ?_, ?_⟩
  · -- the mantissa is filled up to twenty-four bits unless the exponent is used up before
    rcases Nat.lt_or_ge k i with hlt | hge
    · left
      calc 2 ^ 23 ≤ 2 ^ (d.log2 + k) := Nat.pow_le_pow_right two_pos (by omega)
        _ = 2 ^ d.log2 * 2 ^ k := Nat.pow_add _ _ _
        _ ≤ d * 2 ^ k := Nat.mul_le_mul_right _ (Nat.log2_self_le hd.ne')
    · exact .inr (Nat.sub_eq_zero_of_le hge)
  · rw [Nat.mul_assoc, ← Nat.pow_add, Nat.add_sub_cancel' hki]
  · rw [UnpackedFloat.round, decreaseExponent, hshift, Nat.shiftLeft_eq, Nat.cast_sub hki]
    dsimp only
    congr 1
    omega

theorem roundWithAccuracy_exact {m j : ℕ} (hpos : 0 < m) (hm : 2 ^ 23 ≤ m ∨ j = 0)
    (hmax : m * 2 ^ j < 2 ^ 250) :
    Canonical (roundWithAccuracy Format.binary32 .positive m (j - 149) .exact) ∧
      unitsOf (roundWithAccuracy Format.binary32 .positive m (j - 149) .exact)
        = roundUnits (m * 2 ^ j) := by
  obtain ⟨hr, hle, hlow⟩ := nearestEven_bounds hpos
  have hnorm : 2 ^ 23 ≤ nearestEven m (m.log2 - 23) ∨ m.log2 - 23 + j = 0 := by
    rcases Nat.lt_or_ge m (2 ^ 23) with hlt | hge
    · right
      rw [log2_sub_of_lt (hlt.trans (by decide)), hm.resolve_left (Nat.not_le_of_lt hlt)]
    · exact .inl (hlow hge)
  have hlog : m.log2 - 23 + j ≤ 252 := by
    have hu := (Nat.log2_lt (Nat.mul_pos hpos (Nat.two_pow_pos j)).ne').mpr hmax
    rw [log2_mul_two_pow hpos] at hu
    rcases hm with hm | rfl
    · have := le_log2_of_le hm
      omega
    · omega
  rw [roundUnits_mul hpos hm]
  exact canonical_carry hr hle hnorm hlog
    (roundWithAccuracy_eq hm (roundedMantissa_shiftRight m _) hr hle hnorm)

theorem round_spec {d i : ℕ} (hd : 0 < d) (hmax : d * 2 ^ i < 2 ^ 250) :
    Canonical (UnpackedFloat.round Format.binary32 .positive d (i - 149)) ∧
      unitsOf (UnpackedFloat.round Format.binary32 .positive d (i - 149))
        = roundUnits (d * 2 ^ i) := by
  obtain ⟨m, j, hm, hmul, hround⟩ := round_eq hd i
  have hpos : 0 < m := by
    by_contra h
    obtain rfl : m = 0 := Nat.eq_zero_of_not_pos h
    rw [Nat.zero_mul] at hmul
    exact (Nat.mul_pos hd (Nat.two_pow_pos i)).ne hmul
  rw [hround, ← hmul]
  exact roundWithAccuracy_exact hpos hm (hmul ▸ hmax)

end Single

end ChipEight
