import XPathExtension.Binary.Shortest
import XPathExtension.Proofs.Widening

/-!
Rounding to the nearest number. The values that are nearer to a magnitude than to any other are an
interval around it, with its ends where the last bit of the magnitude is zero. All of them are
rounded to its position. The shortest decimal of a magnitude is one of them.
-/

namespace XPathExtension.Binary

variable {f : Format} {k num den : Nat} {x : ℚ}

/-! ### Rounding to an integer -/

theorem nearestEven_eq (hden : 0 < den) {n : Nat} (hlow : 2 * n * den ≤ 2 * num + den)
    (hhigh : 2 * num ≤ 2 * n * den + den)
    (hodd : n % 2 = 1 → 2 * n * den < 2 * num + den ∧ 2 * num < 2 * n * den + den) :
    nearestEven num den = n := by
  have hmod := Nat.mod_lt num hden
  have hdiv := Nat.div_add_mod num den
  -- the quotient is the integer itself or the one below it
  have hquotient : num / den = n ∨ num / den + 1 = n := by
    have hle : num / den ≤ n := by
      rw [← Nat.lt_succ_iff, Nat.div_lt_iff_lt_mul hden, Nat.succ_mul]
      nlinarith
    have hge : n ≤ num / den + 1 := by
      rw [← Nat.lt_succ_iff]
      by_contra hlt
      have hstep : (num / den + 2) * den ≤ n * den := Nat.mul_le_mul_right den (by omega)
      nlinarith
    omega
  unfold nearestEven
  dsimp only
  rcases hquotient with hq | hq
  · rw [hq] at hdiv ⊢
    have hr : 2 * (num % den) ≤ den := by nlinarith
    rw [if_neg (by omega : ¬ den < 2 * (num % den))]
    split
    · rfl
    · rcases Nat.mod_two_eq_zero_or_one n with heven | hone
      · omega
      · have := (hodd hone).2
        nlinarith
  · have hn : n * den = num / den * den + den := by rw [← hq, Nat.add_mul, Nat.one_mul]
    have hr : den ≤ 2 * (num % den) := by nlinarith
    rw [if_neg (by omega : ¬ 2 * (num % den) < den)]
    split
    · exact hq
    · rcases Nat.mod_two_eq_zero_or_one n with heven | hone
      · omega
      · have := (hodd hone).1
        nlinarith

theorem nearestEven_of_near (hden : 0 < den) {n : Nat} (hlow : (n : ℚ) - 1 / 2 ≤ num / den)
    (hhigh : (num : ℚ) / den ≤ n + 1 / 2)
    (hodd : n % 2 = 1 → (n : ℚ) - 1 / 2 < num / den ∧ (num : ℚ) / den < n + 1 / 2) :
    nearestEven num den = n := by
  have hden' : (0 : ℚ) < den := by exact_mod_cast hden
  rw [le_div_iff₀ hden'] at hlow
  rw [div_le_iff₀ hden'] at hhigh
  simp only [lt_div_iff₀ hden', div_lt_iff₀ hden'] at hodd
  refine nearestEven_eq hden ?_ ?_ fun hone => ?_
  · have : (2 * n * den : ℚ) ≤ 2 * num + den := by linarith
    exact_mod_cast this
  · have : (2 * num : ℚ) ≤ 2 * n * den + den := by linarith
    exact_mod_cast this
  · obtain ⟨hl, hh⟩ := hodd hone
    have h1 : (2 * n * den : ℚ) < 2 * num + den := by linarith
    have h2 : (2 * num : ℚ) < 2 * n * den + den := by linarith
    exact ⟨by exact_mod_cast h1, by exact_mod_cast h2⟩

/-- What is rounded in units of a power of two is the value divided by it. -/
theorem exists_scaled (hden : 0 < den) (q : Int) :
    ∃ num' den' : Nat, 0 < den' ∧ (num' : ℚ) / den' = num / den / 2 ^ q ∧
      (if 0 ≤ q then nearestEven num (den * Nat.pow 2 q.toNat)
        else nearestEven (num * Nat.pow 2 (-q).toNat) den) = nearestEven num' den' := by
  split
  case isTrue hq =>
    obtain ⟨n, rfl⟩ := Int.eq_ofNat_of_zero_le hq
    refine ⟨num, den * Nat.pow 2 n, Nat.mul_pos hden (Nat.pow_pos (by decide)), ?_, rfl⟩
    have hcast : ((den * Nat.pow 2 n : Nat) : ℚ) = den * 2 ^ n := by exact_mod_cast rfl
    rw [hcast, div_div, zpow_natCast]
  case isFalse hq =>
    obtain ⟨n, rfl⟩ : ∃ n : Nat, q = -n := ⟨(-q).toNat, by omega⟩
    refine ⟨num * Nat.pow 2 n, den, hden, ?_, by rw [neg_neg, Int.toNat_natCast]⟩
    have hcast : ((num * Nat.pow 2 n : Nat) : ℚ) = num * 2 ^ n := by exact_mod_cast rfl
    rw [hcast, zpow_neg, zpow_natCast, div_inv_eq_mul, div_mul_eq_mul_div]

/-- Rounding in units of a power of two gives the multiple of it that the value is near. -/
theorem nearestEven_of_near_scaled (hden : 0 < den) {n : Nat} {q : Int}
    (hlow : (n - 1 / 2 : ℚ) * 2 ^ q ≤ num / den) (hhigh : (num : ℚ) / den ≤ (n + 1 / 2) * 2 ^ q)
    (hodd : n % 2 = 1 →
      (n - 1 / 2 : ℚ) * 2 ^ q < num / den ∧ (num : ℚ) / den < (n + 1 / 2) * 2 ^ q) :
    (if 0 ≤ q then nearestEven num (den * Nat.pow 2 q.toNat)
      else nearestEven (num * Nat.pow 2 (-q).toNat) den) = n := by
  have hunit : (0 : ℚ) < 2 ^ q := by positivity
  obtain ⟨num', den', hden', hratio, hnearest⟩ := @exists_scaled num den hden q
  rw [hnearest]
  refine nearestEven_of_near hden' ?_ ?_ fun hone => ?_
  · rwa [hratio, le_div_iff₀ hunit]
  · rwa [hratio, div_le_iff₀ hunit]
  · rw [hratio, lt_div_iff₀ hunit, div_lt_iff₀ hunit]
    exact hodd hone

/-! ### Rounding intervals -/

/-- How far the interval of a magnitude reaches below it, in quarters of its last place. Below a
power of two the magnitudes lie closer. -/
def quartersBelow (f : Format) (k : Nat) : Nat :=
  if k % f.full = 0 ∧ 1 < k / f.full then 1 else 2

/-- The value is rounded to the magnitude at position `k`. -/
structure RoundsTo (f : Format) (k : Nat) (x : ℚ) : Prop where
  low : ((magnitudeAt f k).significand - quartersBelow f k / 4 : ℚ) *
    2 ^ (magnitudeAt f k).exponent ≤ x
  high : x ≤ ((magnitudeAt f k).significand + 1 / 2 : ℚ) * 2 ^ (magnitudeAt f k).exponent
  odd : (magnitudeAt f k).significand % 2 = 1 →
    ((magnitudeAt f k).significand - quartersBelow f k / 4 : ℚ) *
      2 ^ (magnitudeAt f k).exponent < x ∧
    x < ((magnitudeAt f k).significand + 1 / 2 : ℚ) * 2 ^ (magnitudeAt f k).exponent

theorem quartersBelow_le (f : Format) (k : Nat) : quartersBelow f k ≤ 2 := by
  unfold quartersBelow
  split <;> omega

theorem quartersBelow_of_full (hs : (magnitudeAt f k).significand = f.full)
    (he : f.minExponent < (magnitudeAt f k).exponent) : quartersBelow f k = 1 := by
  have hfull := f.full_pos
  rw [magnitudeAt_eq] at hs he
  unfold quartersBelow
  split at hs
  case isTrue h =>
    rw [if_pos h] at he
    exact absurd he (lt_irrefl _)
  case isFalse h =>
    rw [if_neg h] at he
    dsimp only at hs he
    rw [if_pos ⟨by omega, by omega⟩]

/-- The first magnitude with an exponent is a power of two. -/
theorem full_mul_zpow (f : Format) (e : ℤ) :
    (f.full : ℚ) * 2 ^ e = 2 ^ ((f.fractionBits : ℤ) + e) := by
  rw [zpow_add₀ two_ne_zero, zpow_natCast, Format.full]
  congr 1
  exact_mod_cast rfl

namespace RoundsTo

theorem lt_zpow (h : RoundsTo f k x) :
    x < 2 ^ ((f.fractionBits : ℤ) + (magnitudeAt f k).exponent + 1) := by
  obtain ⟨-, hlt, -⟩ := Magnitude.isNormal_magnitudeAt f k
  have hs : ((magnitudeAt f k).significand : ℚ) + 1 ≤ 2 * f.full := by exact_mod_cast hlt
  calc x ≤ ((magnitudeAt f k).significand + 1 / 2) * 2 ^ (magnitudeAt f k).exponent := h.high
    _ < 2 * f.full * 2 ^ (magnitudeAt f k).exponent := by
      gcongr
      linarith
    _ = 2 ^ ((f.fractionBits : ℤ) + (magnitudeAt f k).exponent + 1) := by
      rw [zpow_add_one₀ two_ne_zero, ← full_mul_zpow]
      ring

/-- Only the interval of the first magnitude with an exponent reaches below it. -/
theorem significand_eq_full (h : RoundsTo f k x) (he : f.minExponent < (magnitudeAt f k).exponent)
    (hx : x < f.full * 2 ^ (magnitudeAt f k).exponent) :
    (magnitudeAt f k).significand = f.full := by
  obtain ⟨-, -, hfull⟩ := Magnitude.isNormal_magnitudeAt f k
  have hle : f.full ≤ (magnitudeAt f k).significand := hfull.resolve_left he.ne'
  have hb : (quartersBelow f k : ℚ) ≤ 2 := by exact_mod_cast quartersBelow_le f k
  by_contra hne
  have hs : (f.full : ℚ) + 1 ≤ (magnitudeAt f k).significand := by
    exact_mod_cast Nat.lt_of_le_of_ne hle (Ne.symm hne)
  have hbelow : (f.full : ℚ) * 2 ^ (magnitudeAt f k).exponent <
      ((magnitudeAt f k).significand - quartersBelow f k / 4) *
        2 ^ (magnitudeAt f k).exponent := by
    gcongr
    linarith
  exact absurd (hx.trans hbelow) (not_lt.2 h.low)

/-- The interval of a power of two does not reach the power before. -/
theorem zpow_le (h : RoundsTo f k x) (hs : (magnitudeAt f k).significand = f.full)
    (hquarter : quartersBelow f k = 1) :
    (2 : ℚ) ^ ((f.fractionBits : ℤ) + (magnitudeAt f k).exponent - 1) ≤ x := by
  have hfull : (1 : ℚ) ≤ f.full := by exact_mod_cast f.full_pos
  have hlow := h.low
  rw [hs, hquarter] at hlow
  calc (2 : ℚ) ^ ((f.fractionBits : ℤ) + (magnitudeAt f k).exponent - 1)
      = f.full / 2 * 2 ^ (magnitudeAt f k).exponent := by
        rw [zpow_sub_one₀ two_ne_zero, ← full_mul_zpow]
        ring
    _ ≤ (f.full - (1 : Nat) / 4) * 2 ^ (magnitudeAt f k).exponent := by
        gcongr
        push_cast
        linarith
    _ ≤ x := hlow

end RoundsTo

/-- The exponent that rounding takes is that of the magnitude, except for values just below the
first magnitude with its exponent, which are rounded with the exponent before. -/
theorem exponent_of_roundsTo (hden : 0 < den) (hnum : 0 < num)
    (h : RoundsTo f k ((num : ℚ) / den)) :
    max f.minExponent (floorLog2 num den - f.fractionBits) = (magnitudeAt f k).exponent ∨
      max f.minExponent (floorLog2 num den - f.fractionBits) + 1 = (magnitudeAt f k).exponent ∧
        (magnitudeAt f k).significand = f.full ∧ quartersBelow f k = 1 ∧
        (num : ℚ) / den < f.full * 2 ^ (magnitudeAt f k).exponent := by
  obtain ⟨hleast, -, -⟩ := Magnitude.isNormal_magnitudeAt f k
  obtain ⟨hlow, hhigh⟩ := floorLog2_bounds hden hnum
  have hone : (1 : ℚ) < 2 := by norm_num
  have hupper := (zpow_lt_zpow_iff_right₀ hone).1 (hlow.trans_lt h.lt_zpow)
  by_cases hexponent :
      (magnitudeAt f k).exponent ≤ max f.minExponent (floorLog2 num den - f.fractionBits)
  · exact .inl (by omega)
  · have hmin : f.minExponent < (magnitudeAt f k).exponent := by omega
    have hfull : (num : ℚ) / den < f.full * 2 ^ (magnitudeAt f k).exponent := by
      rw [full_mul_zpow]
      refine hhigh.trans_le (zpow_le_zpow_right₀ hone.le ?_)
      omega
    have hs := h.significand_eq_full hmin hfull
    have hquarter := quartersBelow_of_full hs hmin
    have hlower := (zpow_lt_zpow_iff_right₀ hone).1 ((h.zpow_le hs hquarter).trans_lt hhigh)
    exact .inr ⟨by omega, hs, hquarter, hfull⟩

/-- Every value in the interval of a magnitude is rounded to its position. -/
theorem nearestPosition_of_roundsTo (hden : 0 < den) (hnum : 0 < num)
    (h : RoundsTo f k ((num : ℚ) / den)) : nearestPosition f num den = k := by
  have hexponent := exponent_of_roundsTo hden hnum h
  have hposition := Magnitude.position_magnitudeAt f k
  have hbelow := quartersBelow_le f k
  have hleast := le_max_left f.minExponent (floorLog2 num den - f.fractionBits)
  unfold nearestPosition
  rw [if_neg hnum.ne']
  dsimp only
  generalize max f.minExponent (floorLog2 num den - f.fractionBits) = q at *
  change (q - f.minExponent).toNat * f.full + _ = k
  conv_rhs => rw [← hposition]
  unfold Magnitude.position
  obtain ⟨hlow, hhigh, hodd⟩ := h
  generalize magnitudeAt f k = v at *
  obtain ⟨s, e⟩ := v
  dsimp only at *
  rcases hexponent with rfl | ⟨rfl, rfl, hquarter, hfull⟩
  · have hhalf : (s : ℚ) - 1 / 2 ≤ s - quartersBelow f k / 4 := by
      have hb : (quartersBelow f k : ℚ) ≤ 2 := by exact_mod_cast hbelow
      linarith
    have hscaled := mul_le_mul_of_nonneg_right hhalf (zpow_nonneg zero_le_two q)
    rw [nearestEven_of_near_scaled hden (hscaled.trans hlow) hhigh fun hone => ?_]
    exact ⟨hscaled.trans_lt (hodd hone).1, (hodd hone).2⟩
  · -- in units half as large, the value is near twice the significand
    rw [zpow_add_one₀ two_ne_zero] at hlow hfull
    rw [nearestEven_of_near_scaled (n := 2 * f.full) hden]
    · have hsucc : (q + 1 - f.minExponent).toNat = (q - f.minExponent).toNat + 1 := by omega
      rw [hsucc]
      ring
    · refine le_trans (le_of_eq ?_) hlow
      rw [hquarter]
      push_cast
      ring
    · have hunit : (0 : ℚ) < 2 ^ q := zpow_pos two_pos q
      push_cast
      linarith
    · intro hone
      omega

end XPathExtension.Binary

/-! ### Shortest decimals -/

namespace XPathExtension

def Decimal.value (d : Decimal) : ℚ := d.digits * 10 ^ d.exponent

namespace Binary

variable {f : Format} {k : Nat}

namespace Interval

variable {i : Interval}

theorem contains_of_onGrid? {grid d : Nat} (h : i.onGrid? grid = some d) :
    i.contains (d * grid) = true := by
  unfold onGrid? at h
  dsimp only at h
  split at h
  case h_1 => cases h
  case h_2 hd _ => exact Option.some.inj h ▸ hd
  case h_3 hd => exact Option.some.inj h ▸ hd
  case h_4 hd hnext =>
    obtain rfl := Option.some.inj h
    split
    · exact hd
    · exact hnext

/-- What is found lies in the interval if the value itself does. -/
theorem exists_contains_firstHit (hv : i.contains i.value = true) (n : Nat) :
    ∃ m, i.contains m = true ∧ (i.firstHit n).value = m * 10 ^ i.exponent := by
  induction n with
  | zero => exact ⟨i.value, hv, rfl⟩
  | succ n ih =>
    rw [firstHit]
    cases hd : i.onGrid? (Nat.pow 10 (n + 1)) with
    | none => exact ih
    | some d =>
      refine ⟨d * Nat.pow 10 (n + 1), contains_of_onGrid? hd, ?_⟩
      have hcast : ((d * Nat.pow 10 (n + 1) : Nat) : ℚ) = d * 10 ^ (n + 1) := by
        exact_mod_cast rfl
      rw [hcast, Decimal.value, zpow_add₀ (by norm_num), zpow_natCast]
      ring

end Interval

theorem significand_pos (hk : 0 < k) : 0 < (magnitudeAt f k).significand := by
  rw [magnitudeAt_eq]
  split
  · exact hk
  · exact Nat.add_pos_left f.full_pos _

/-- The unit of an interval is a quarter of the last place of its magnitude. -/
theorem exists_unit (f : Format) (k : Nat) :
    ∃ (u : Nat) (e : Int), (u : ℚ) * 10 ^ e = 2 ^ ((magnitudeAt f k).exponent - 2) ∧
      interval f k =
        { low := (4 * (magnitudeAt f k).significand - quartersBelow f k) * u
          value := 4 * (magnitudeAt f k).significand * u
          high := (4 * (magnitudeAt f k).significand + 2) * u
          closed := (magnitudeAt f k).significand % 2 == 0
          exponent := e } := by
  refine ⟨_, _, ?_, rfl⟩
  generalize (magnitudeAt f k).exponent - 2 = q
  split
  case isTrue hq =>
    obtain ⟨n, rfl⟩ := Int.eq_ofNat_of_zero_le hq
    rw [zpow_zero, mul_one, zpow_natCast]
    exact_mod_cast rfl
  case isFalse hq =>
    obtain ⟨n, rfl⟩ : ∃ n : Nat, q = -n := ⟨(-q).toNat, by omega⟩
    rw [neg_neg, Int.toNat_natCast, zpow_neg, zpow_neg, zpow_natCast, zpow_natCast]
    have hcast : ((Nat.pow 5 n : Nat) : ℚ) = 5 ^ n := by exact_mod_cast rfl
    have hten : (10 : ℚ) ^ n = 5 ^ n * 2 ^ n := by rw [← mul_pow]; norm_num
    rw [hcast, hten]
    field_simp

theorem roundsTo_of_contains (hk : 0 < k) {m : Nat} (hm : (interval f k).contains m = true) :
    RoundsTo f k (m * 10 ^ (interval f k).exponent) := by
  obtain ⟨u, e, hunit, hinterval⟩ := exists_unit f k
  have hs := significand_pos (f := f) hk
  have hbelow := quartersBelow_le f k
  have hquarter : (2 : ℚ) ^ (magnitudeAt f k).exponent = 4 * (u * 10 ^ e) := by
    rw [hunit, zpow_sub₀ two_ne_zero]
    norm_num
    ring
  have hten : (0 : ℚ) < 10 ^ e := by positivity
  rw [hinterval] at hm ⊢
  dsimp only [Interval.contains] at hm ⊢
  have hlow : ((magnitudeAt f k).significand - quartersBelow f k / 4 : ℚ) *
      2 ^ (magnitudeAt f k).exponent =
        ((4 * (magnitudeAt f k).significand - quartersBelow f k) * u : Nat) * 10 ^ e := by
    rw [hquarter, Nat.cast_mul, Nat.cast_sub (by omega)]
    push_cast
    ring
  have hhigh : ((magnitudeAt f k).significand + 1 / 2 : ℚ) * 2 ^ (magnitudeAt f k).exponent =
      ((4 * (magnitudeAt f k).significand + 2) * u : Nat) * 10 ^ e := by
    rw [hquarter]
    push_cast
    ring
  refine ⟨?_, ?_, fun hodd => ?_⟩
  · rw [hlow]
    have : (4 * (magnitudeAt f k).significand - quartersBelow f k) * u ≤ m := by
      split at hm <;> simp only [Bool.and_eq_true, decide_eq_true_eq] at hm <;> omega
    gcongr
  · rw [hhigh]
    have : m ≤ (4 * (magnitudeAt f k).significand + 2) * u := by
      split at hm <;> simp only [Bool.and_eq_true, decide_eq_true_eq] at hm <;> omega
    gcongr
  · simp only [hodd, Nat.reduceBEq, Bool.false_eq_true, if_false, Bool.and_eq_true,
      decide_eq_true_eq] at hm
    obtain ⟨hmlow, hmhigh⟩ := hm
    rw [hlow, hhigh]
    constructor <;> gcongr

/-- The shortest decimal of a magnitude is rounded to it. -/
theorem roundsTo_shortest (hk : 0 < k) : RoundsTo f k (shortest f k).value := by
  have hvalue : (interval f k).contains (interval f k).value = true := by
    obtain ⟨u, e, hunit, hinterval⟩ := exists_unit f k
    have hu : 0 < u := by
      have hpos : (0 : ℚ) < u * 10 ^ e := by rw [hunit]; positivity
      exact_mod_cast pos_of_mul_pos_left hpos (by positivity)
    have hs := significand_pos (f := f) hk
    have hquarters : 0 < quartersBelow f k := by unfold quartersBelow; split <;> decide
    have hlow : (4 * (magnitudeAt f k).significand - quartersBelow f k) * u <
        4 * (magnitudeAt f k).significand * u :=
      Nat.mul_lt_mul_of_pos_right (by omega) hu
    have hhigh : 4 * (magnitudeAt f k).significand * u <
        (4 * (magnitudeAt f k).significand + 2) * u :=
      Nat.mul_lt_mul_of_pos_right (by omega) hu
    rw [hinterval]
    unfold Interval.contains
    dsimp only
    split <;> simp only [Bool.and_eq_true, decide_eq_true_eq] <;> omega
  unfold shortest
  rw [if_neg hk.ne']
  obtain ⟨m, hm, hfirst⟩ := Interval.exists_contains_firstHit hvalue
    (Nat.toDigits 10 (interval f k).value).length
  rw [hfirst]
  exact roundsTo_of_contains hk hm

end Binary

end XPathExtension
