import ChipEight.Clock
import ChipEight.Proofs.Single.Reciprocal

/-!
# Time steps

The time step of a clock is the reciprocal of its rate, so it gets as small as one likes. The
longest collected time has a last place of `2 ^ -27` seconds, and half of that is the time step of
the rate `2 ^ 28`. This file says on which side of it the time step of a rate is. Rounding does not
blur the line: the time step of the greatest rate below is still greater than `2 ^ -28`.
-/

namespace ChipEight

namespace Clock

open Single Float.Model Float.Model.UnpackedFloat

variable {x rate : Float32} {m k : ℕ} {hm : 0 < m}

/-- The least rate whose time step is half a unit in the last place of the longest time. -/
def absorbedRate : Float32 := 268435456.0

/-! ## Numbers that are at least one -/

theorem units_one : units 1.0 = 2 ^ 23 * 2 ^ 126 := by
  rw [units, unpack_one, unitsOf_ofParts]

theorem units_absorbedRate : units absorbedRate = 2 ^ 23 * 2 ^ 154 := rfl

theorem unpack_of_one_le (h : 1.0 ≤ x) :
    x.toModel.unpack = .infinity .positive ∨
      ∃ m k hm, x.toModel.unpack = ofParts m k hm ∧ 2 ^ 23 ≤ m ∧ m < 2 ^ 24 ∧ 126 ≤ k ∧
        k ≤ 253 := by
  have hone : 0 < units 1.0 := by rw [units_one]; positivity
  refine (infinite_or_units_pos hone h).imp_right fun hpos ↦ ?_
  obtain ⟨m, k, hm, hparts, hlt, hk, hnorm⟩ := exists_eq_ofParts (canonical_unpack x.toModel) hpos
  have hle := (le_iff_units hone hpos).mp h
  rw [units_one, units, hparts, unitsOf_ofParts] at hle
  have hk' : 126 ≤ k := by
    by_contra hk'
    exact absurd hle (Nat.not_le_of_lt (mul_two_pow_lt hlt le_rfl (Nat.lt_of_not_le hk')))
  exact ⟨m, k, hm, hparts, hnorm.resolve_right (by omega), hlt, hk', hk⟩

theorem absorbedRate_le_iff (hx : x.toModel.unpack = ofParts m k hm) (hlo : 2 ^ 23 ≤ m)
    (hhi : m < 2 ^ 24) : absorbedRate ≤ x ↔ 154 ≤ k := by
  have hunits : units x = m * 2 ^ k := by rw [units, hx, unitsOf_ofParts]
  rw [le_iff_units (by rw [units_absorbedRate]; positivity) (by rw [hunits]; positivity),
    units_absorbedRate, hunits]
  constructor
  · intro hle
    by_contra hk
    exact absurd hle (Nat.not_le_of_lt (mul_two_pow_lt hhi le_rfl (Nat.lt_of_not_le hk)))
  · intro hk
    exact Nat.mul_le_mul hlo (Nat.pow_le_pow_right two_pos hk)

/-! ## Their reciprocals -/

theorem lt_units_one_div (hx : x.toModel.unpack = ofParts m k hm) (hlo : 2 ^ 23 ≤ m)
    (hhi : m < 2 ^ 24) (hk : 126 ≤ k) (hk' : k < 154) : 2 ^ 121 < units (1.0 / x) := by
  obtain ⟨r, hunits, hle, -, -, hup⟩ := units_one_div hx hlo hhi hk (by omega)
  have hexp : dividendExponent k = 47 := by
    rw [dividendExponent]
    omega
  rw [hexp] at hle hup
  have hr : 2 ^ 23 + 1 ≤ r := by
    by_cases hmax : m = 2 ^ 24 - 1
    · -- the quotient is `2 ^ 23`, but more than half is left over
      subst hmax
      exact (hup (by decide)).ge
    · refine le_trans ?_ hle
      rw [Nat.le_div_iff_mul_le hm]
      omega
  rw [hunits]
  calc 2 ^ 121 < (2 ^ 23 + 1) * 2 ^ 98 := by norm_num
    _ ≤ r * 2 ^ (251 - k) := Nat.mul_le_mul hr (Nat.pow_le_pow_right two_pos (by omega))

theorem units_one_div_le (hx : x.toModel.unpack = ofParts m k hm) (hlo : 2 ^ 23 ≤ m)
    (hhi : m < 2 ^ 24) (hk : 154 ≤ k) (hk' : k ≤ 253) :
    0 < units (1.0 / x) ∧ units (1.0 / x) ≤ 2 ^ 121 := by
  obtain ⟨r, hunits, hle, hge, hexact, -⟩ := units_one_div hx hlo hhi (by omega) hk'
  have hexp : 45 ≤ dividendExponent k ∧ dividendExponent k ≤ 47 := by
    rcases dividendExponent_bounds hk' with h | ⟨hlow, hhigh, -⟩ <;> omega
  generalize dividendExponent k = p at *
  have hpos : 0 < 2 ^ p / m := by
    have hpow : 2 ^ 24 ≤ 2 ^ p := Nat.pow_le_pow_right two_pos (by omega)
    exact Nat.div_pos (hhi.le.trans hpow) hm
  have hr : r ≤ 2 ^ 24 := by
    have hpow : 2 ^ p ≤ 2 ^ 47 := Nat.pow_le_pow_right two_pos hexp.2
    by_cases hmin : m = 2 ^ 23
    · -- the quotient may have a twenty-fifth bit, but nothing is left over
      subst hmin
      have hdvd : 2 ^ 23 ∣ 2 ^ p := Nat.pow_dvd_pow 2 (by omega)
      rw [hexact (Nat.mod_eq_zero_of_dvd hdvd)]
      exact (Nat.div_le_div_right hpow).trans (by decide)
    · have hlt : 2 ^ p / m < 2 ^ 24 := by
        rw [Nat.div_lt_iff_lt_mul hm]
        omega
      exact hge.trans hlt
  rw [hunits]
  refine ⟨Nat.mul_pos (hpos.trans_le hle) (Nat.two_pow_pos _), ?_⟩
  calc r * 2 ^ (251 - k) ≤ 2 ^ 24 * 2 ^ 97 :=
        Nat.mul_le_mul hr (Nat.pow_le_pow_right two_pos (by omega))
    _ = 2 ^ 121 := by norm_num

theorem unpack_one_div_of_infinity (hx : x.toModel.unpack = .infinity .positive) :
    (1.0 / x).toModel.unpack = .zero .positive := by
  have hdiv : (1.0 / x).toModel = .pack (UnpackedFloat.div Format.binary32
      (ofParts (2 ^ 23) 126 (Nat.two_pow_pos 23)) (.infinity .positive)) := by
    rw [← unpack_one, ← hx]
    rfl
  rw [hdiv]
  exact unpack_pack trivial

/-! ## Rates -/

/-- Below the line. A rate that is less than one or no number is one of them. -/
theorem lt_units_timeStep (h : ¬absorbedRate ≤ rate) : 2 ^ 121 < units (ofRate rate).timeStep := by
  rw [ofRate, atLeastOne]
  split
  · next hone =>
    rcases unpack_of_one_le hone with hinf | ⟨m, k, hm, hparts, hlo, hhi, hk, -⟩
    · exact absurd (le_of_infinite (by rw [units_absorbedRate]; positivity) hinf) h
    · rw [absorbedRate_le_iff hparts hlo hhi] at h
      exact lt_units_one_div hparts hlo hhi hk (Nat.lt_of_not_le h)
  · exact lt_units_one_div unpack_one le_rfl (by decide) le_rfl (by decide)

theorem one_le_of_absorbedRate_le (h : absorbedRate ≤ x) : 1.0 ≤ x := by
  have hone : 0 < units 1.0 := by rw [units_one]; positivity
  have hrate : 0 < units absorbedRate := by rw [units_absorbedRate]; positivity
  rcases infinite_or_units_pos hrate h with hinf | hpos
  · exact le_of_infinite hone hinf
  · rw [le_iff_units hone hpos, units_one]
    rw [le_iff_units hrate hpos, units_absorbedRate] at h
    exact le_trans (by norm_num) h

/-- Above the line. The time step of the infinite rate is zero. -/
theorem units_timeStep_le (h : absorbedRate ≤ rate) :
    (ofRate rate).timeStep.toModel.unpack = .zero .positive ∨
      0 < units (ofRate rate).timeStep ∧ units (ofRate rate).timeStep ≤ 2 ^ 121 := by
  have hone := one_le_of_absorbedRate_le h
  rw [ofRate, atLeastOne, if_pos hone]
  rcases unpack_of_one_le hone with hinf | ⟨m, k, hm, hparts, hlo, hhi, hk, hk'⟩
  · exact .inl (unpack_one_div_of_infinity hinf)
  · have hk := (absorbedRate_le_iff hparts hlo hhi).mp h
    exact .inr (units_one_div_le hparts hlo hhi hk hk')

end Clock

end ChipEight
