import ChipEight.Proofs.Single.Rounding

/-!
# Reciprocals

The reciprocal of a number that is at least one is rounded from an integer quotient and what the
division leaves over. Only numbers of at least one are looked at, whose mantissas have all their
bits; the reciprocals of the greatest ones have not.
-/

namespace ChipEight

namespace Single

open Float.Model Float.Model.UnpackedFloat

theorem roundedMantissa_ofMantissaAndAccuracy (q : ℕ) (accuracy : Accuracy) :
    (ExtendedMantissa.ofMantissaAndAccuracy q accuracy).roundedMantissa
      = accuracy.roundToNearestEven q := by
  rcases accuracy with _ | _ | _ | _ <;> rfl

/-- A quotient is rounded up if more than half of the divisor is left over, and not at all if
nothing is. -/
theorem roundToNearestEven_spec (q r m : ℕ) :
    q ≤ (accuracyOfFraction r m).roundToNearestEven q ∧
      (accuracyOfFraction r m).roundToNearestEven q ≤ q + 1 ∧
      (r = 0 → (accuracyOfFraction r m).roundToNearestEven q = q) ∧
      (m < 2 * r → (accuracyOfFraction r m).roundToNearestEven q = q + 1) := by
  rw [accuracyOfFraction]
  split
  · next hr =>
    subst hr
    exact ⟨le_rfl, Nat.le_succ q, fun _ ↦ rfl, fun h ↦ absurd h (Nat.not_lt_zero m)⟩
  · next hr =>
    rcases hc : compare (2 * r) m with _ | _ | _
    · have := compare_lt_iff_lt.mp hc
      exact ⟨le_rfl, Nat.le_succ q, fun _ ↦ rfl, fun h ↦ by omega⟩
    · have := compare_eq_iff_eq.mp hc
      change q ≤ q + q % 2 ∧ q + q % 2 ≤ q + 1 ∧ (r = 0 → q + q % 2 = q) ∧
        (m < 2 * r → q + q % 2 = q + 1)
      omega
    · exact ⟨Nat.le_succ q, le_rfl, fun h ↦ absurd h hr, fun _ ↦ rfl⟩

/-- The dividend of a reciprocal is a power of two; the exponent `k` of the divisor says which. -/
def dividendExponent (k : ℕ) : ℕ := 298 - k - (251 - k)

theorem dividendExponent_bounds {k : ℕ} (hk : k ≤ 253) :
    dividendExponent k = 47 ∨
      45 ≤ dividendExponent k ∧ dividendExponent k < 47 ∧ 251 - k = 0 := by
  rw [dividendExponent]
  omega

theorem div_ofParts {m k : ℕ} (hm : 0 < m) (hlo : 2 ^ 23 ≤ m) (hhi : m < 2 ^ 24) (hk : k ≤ 253) :
    UnpackedFloat.div Format.binary32 (ofParts (2 ^ 23) 126 (Nat.two_pow_pos 23)) (ofParts m k hm)
      = roundWithAccuracy Format.binary32 .positive (2 ^ dividendExponent k / m)
          ((251 - k : ℕ) - 149) (accuracyOfFraction (2 ^ dividendExponent k % m) m) := by
  have hlog : m.log2 = 23 := (Nat.log2_eq_iff hm.ne').mpr ⟨hlo, hhi⟩
  have htarget : min (((126 : ℕ) : ℤ) - 149 - (k - 149))
      (Format.binary32.targetExponent
        (totalExponent (2 ^ 23) ((126 : ℕ) - 149) - totalExponent m (k - 149)))
      = ((251 - k : ℕ) : ℤ) - 149 := by
    rw [targetExponent_eq, totalExponent, totalExponent, Nat.log2_two_pow, hlog]
    omega
  have hshift : (((126 : ℕ) : ℤ) - 149 - (k - 149) - ((251 - k : ℕ) - 149)).toNat
      = dividendExponent k - 23 := by
    rw [dividendExponent]
    omega
  have hpow : 2 ^ 23 <<< (dividendExponent k - 23) = 2 ^ dividendExponent k := by
    have hle : 23 ≤ dividendExponent k := by
      rcases dividendExponent_bounds hk with h | ⟨h, -, -⟩ <;> omega
    rw [Nat.shiftLeft_eq, ← Nat.pow_add, Nat.add_sub_cancel' hle]
  rw [ofParts, ofParts, UnpackedFloat.div, divCore, htarget, hshift, hpow]
  rfl

/-- The quotients of mantissas have twenty-four bits, or fewer at the least exponent. Only the least
mantissa gives one bit more. -/
theorem quotient_bounds {m p j : ℕ} (hlo : 2 ^ 23 ≤ m) (hhi : m < 2 ^ 24)
    (hp : p = 47 ∨ 45 ≤ p ∧ p < 47 ∧ j = 0) (hcarry : ¬(m = 2 ^ 23 ∧ p = 47)) :
    0 < 2 ^ p / m ∧ 2 ^ p / m < 2 ^ 24 ∧ (2 ^ 23 ≤ 2 ^ p / m ∨ j = 0) := by
  have hm : 0 < m := (Nat.two_pow_pos 23).trans_le hlo
  refine ⟨?_, ?_, ?_⟩
  · have hle : 2 ^ 24 ≤ 2 ^ p := Nat.pow_le_pow_right two_pos (by omega)
    exact Nat.div_pos (hhi.le.trans hle) hm
  · rw [Nat.div_lt_iff_lt_mul hm]
    rcases hp with rfl | ⟨-, hp, -⟩
    · omega
    · have hle : 2 ^ p ≤ 2 ^ 46 := Nat.pow_le_pow_right two_pos (by omega)
      omega
  · rcases hp with rfl | ⟨-, -, hj⟩
    · rw [Nat.le_div_iff_mul_le hm]
      omega
    · exact .inr hj

/-- Rounding a quotient that has at most twenty-four bits, and one that has all its bits if it is
not at the least exponent. -/
theorem round_quotient {q r m j : ℕ} (hpos : 0 < q) (hlt : q < 2 ^ 24) (hq : 2 ^ 23 ≤ q ∨ j = 0)
    (hj : j ≤ 252) :
    Canonical (roundWithAccuracy Format.binary32 .positive q (j - 149) (accuracyOfFraction r m)) ∧
      unitsOf (roundWithAccuracy Format.binary32 .positive q (j - 149) (accuracyOfFraction r m))
        = (accuracyOfFraction r m).roundToNearestEven q * 2 ^ j := by
  have hlog := log2_sub_of_lt hlt
  have hrounded : (ExtendedMantissa.ofMantissaAndAccuracy q (accuracyOfFraction r m)
      >>> (q.log2 - 23)).roundedMantissa = (accuracyOfFraction r m).roundToNearestEven q := by
    rw [hlog]
    exact roundedMantissa_ofMantissaAndAccuracy q _
  obtain ⟨hge, hle, -⟩ := roundToNearestEven_spec q r m
  have hnorm : 2 ^ 23 ≤ (accuracyOfFraction r m).roundToNearestEven q ∨ j = 0 :=
    hq.imp_left fun h ↦ h.trans hge
  have heq := roundWithAccuracy_eq hq hrounded (hpos.trans_le hge) (hle.trans hlt)
  rw [hlog, Nat.zero_add] at heq
  exact canonical_carry (hpos.trans_le hge) (hle.trans hlt) hnorm hj (heq hnorm)

/-- Rounding the one quotient that has a bit more. Nothing is left over. -/
theorem round_quotient_carry {j : ℕ} (hj : j ≤ 125) :
    Canonical (roundWithAccuracy Format.binary32 .positive (2 ^ 24) (j - 149) .exact) ∧
      unitsOf (roundWithAccuracy Format.binary32 .positive (2 ^ 24) (j - 149) .exact)
        = 2 ^ 24 * 2 ^ j := by
  have hmax : 2 ^ 24 * 2 ^ j < 2 ^ 250 := by
    rw [← Nat.pow_add]
    exact Nat.pow_lt_pow_right (by decide) (by omega)
  have hone : (2 ^ 24).log2 - 23 = 1 := by rw [Nat.log2_two_pow]
  have hnearest : nearestEven (2 ^ 24) 1 = 2 ^ 23 := rfl
  obtain ⟨hcanonical, hunits⟩ := roundWithAccuracy_exact (by decide) (.inl (by decide)) hmax
  refine ⟨hcanonical, ?_⟩
  rw [hunits, roundUnits_mul (by decide) (.inl (by decide)), hone, hnearest]
  ring

variable {x : Float32} {m k : ℕ} {hm : 0 < m}

theorem unpack_one : (1.0 : Float32).toModel.unpack = ofParts (2 ^ 23) 126 (Nat.two_pow_pos 23) :=
  rfl

/-- **Reciprocals.** The mantissa of a reciprocal is the quotient or one more, and which of the two
depends on what is left over. -/
theorem units_one_div (hx : x.toModel.unpack = ofParts m k hm) (hlo : 2 ^ 23 ≤ m) (hhi : m < 2 ^ 24)
    (hk : 126 ≤ k) (hk' : k ≤ 253) :
    ∃ r, units (1.0 / x) = r * 2 ^ (251 - k) ∧
      2 ^ dividendExponent k / m ≤ r ∧ r ≤ 2 ^ dividendExponent k / m + 1 ∧
      (2 ^ dividendExponent k % m = 0 → r = 2 ^ dividendExponent k / m) ∧
      (m < 2 * (2 ^ dividendExponent k % m) → r = 2 ^ dividendExponent k / m + 1) := by
  have hdiv : (1.0 / x).toModel = .pack (UnpackedFloat.div Format.binary32
      (ofParts (2 ^ 23) 126 (Nat.two_pow_pos 23)) (ofParts m k hm)) := by
    rw [← unpack_one, ← hx]
    rfl
  rw [div_ofParts hm hlo hhi hk'] at hdiv
  have hp := dividendExponent_bounds hk'
  have hj : 251 - k ≤ 125 := by omega
  generalize 251 - k = j at *
  generalize dividendExponent k = p at *
  by_cases hcarry : m = 2 ^ 23 ∧ p = 47
  · obtain ⟨rfl, rfl⟩ := hcarry
    have hexact : accuracyOfFraction (2 ^ 47 % 2 ^ 23) (2 ^ 23) = .exact := rfl
    have hquotient : 2 ^ 47 / 2 ^ 23 = 2 ^ 24 := rfl
    obtain ⟨hcanonical, hunits⟩ := round_quotient_carry hj
    refine ⟨2 ^ 24, ?_, hquotient.le, by rw [hquotient]; omega, fun _ ↦ hquotient.symm, ?_⟩
    · rw [units, hdiv, hexact, hquotient, unpack_pack hcanonical, hunits]
    · intro h
      exact absurd h (by decide)
  · obtain ⟨hpos, hlt, hq⟩ := quotient_bounds hlo hhi hp hcarry
    obtain ⟨hcanonical, hunits⟩ := round_quotient (r := 2 ^ p % m) (m := m) hpos hlt hq (by omega)
    obtain ⟨hle, hge, hexact, hup⟩ := roundToNearestEven_spec (2 ^ p / m) (2 ^ p % m) m
    exact ⟨_, by rw [units, hdiv, unpack_pack hcanonical, hunits], hle, hge, hexact, hup⟩

end Single

end ChipEight
