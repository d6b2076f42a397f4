import Mathlib.Algebra.Order.Field.Power
import Mathlib.Data.Rat.Cast.Order
import Mathlib.Tactic.FieldSimp
import Mathlib.Tactic.Linarith
import Mathlib.Tactic.Positivity
import Mathlib.Tactic.Ring
import XPathExtension.Binary.Rounding

/-!
Rounding loses nothing of a value that the format has. The position of a magnitude and the pair of
significand and exponent at it determine each other, and a ratio that is equal to such a magnitude
is rounded to its position. A number taken to a wider format and back is therefore the same number.
-/

namespace XPathExtension.Binary

variable {f g : Format} {num den : Nat}

/-! ### Positions of magnitudes -/

namespace Format

/-- The first significand with a leading bit that is not stored. -/
def full (f : Format) : Nat := Nat.pow 2 f.fractionBits

theorem full_pos (f : Format) : 0 < f.full := Nat.pow_pos (by decide)

end Format

theorem magnitudeAt_eq (f : Format) (k : Nat) :
    magnitudeAt f k = if k / f.full = 0 then ⟨k, f.minExponent⟩
      else ⟨f.full + k % f.full, f.minExponent + (k / f.full - 1 : Nat)⟩ := rfl

namespace Magnitude

variable {v : Magnitude}

/-- The pairs that stand at the positions of a format. -/
structure IsNormal (f : Format) (v : Magnitude) : Prop where
  least : f.minExponent ≤ v.exponent
  lt : v.significand < 2 * f.full
  full : v.exponent = f.minExponent ∨ f.full ≤ v.significand

def position (f : Format) (v : Magnitude) : Nat :=
  (v.exponent - f.minExponent).toNat * f.full + v.significand

def value (v : Magnitude) : ℚ := v.significand * 2 ^ v.exponent

theorem isNormal_magnitudeAt (f : Format) (k : Nat) : IsNormal f (magnitudeAt f k) := by
  have hfull := f.full_pos
  rw [magnitudeAt_eq]
  split
  case isTrue h =>
    have hk := (Nat.div_eq_zero_iff_lt hfull).1 h
    exact ⟨Int.le_refl _, by dsimp only; omega, .inl rfl⟩
  case isFalse h =>
    have hmod := Nat.mod_lt k hfull
    exact ⟨by dsimp only; omega, by dsimp only; omega, .inr (Nat.le_add_right _ _)⟩

theorem position_magnitudeAt (f : Format) (k : Nat) : (magnitudeAt f k).position f = k := by
  rw [magnitudeAt_eq]
  unfold position
  split
  case isTrue h => simp
  case isFalse h =>
    have hsum : (k / f.full - 1) * f.full + f.full = k / f.full * f.full := by
      rw [← Nat.succ_mul, Nat.succ_eq_add_one, Nat.sub_add_cancel (Nat.pos_of_ne_zero h)]
    have hdiv := Nat.div_add_mod' k f.full
    simp only [add_sub_cancel_left, Int.toNat_natCast]
    omega

theorem magnitudeAt_position (h : v.IsNormal f) : magnitudeAt f (v.position f) = v := by
  obtain ⟨s, e⟩ := v
  obtain ⟨hleast, hlt, hfull⟩ := h
  dsimp only at hleast hlt hfull
  have hpos := f.full_pos
  obtain ⟨n, rfl⟩ : ∃ n : Nat, e = f.minExponent + n := ⟨(e - f.minExponent).toNat, by omega⟩
  have hposition : position f ⟨s, f.minExponent + n⟩ = s + f.full * n := by
    simp [position, Nat.mul_comm, Nat.add_comm]
  rw [hposition, magnitudeAt_eq, Nat.add_mul_div_left _ _ hpos, Nat.add_mul_mod_self_left]
  by_cases hs : s < f.full
  · obtain rfl : n = 0 := by omega
    rw [Nat.div_eq_of_lt hs]
    simp
  · have hdiv : s / f.full = 1 := by
      rw [Nat.div_eq_iff hpos]
      omega
    have hmod : s % f.full = s - f.full := by
      rw [Nat.mod_eq_sub_mod (by omega), Nat.mod_eq_of_lt (by omega)]
    rw [hdiv, if_neg (by omega), hmod]
    congr 1
    · omega
    · omega

end Magnitude

/-! ### Rounding of exact values -/

theorem log2_bounds {n : Nat} (hn : 0 < n) :
    (2 : ℚ) ^ (n.log2 : ℤ) ≤ n ∧ (n : ℚ) < 2 ^ ((n.log2 : ℤ) + 1) := by
  constructor
  · rw [zpow_natCast]
    exact_mod_cast Nat.log2_self_le hn.ne'
  · rw [← Nat.cast_succ, zpow_natCast]
    exact_mod_cast Nat.lt_log2_self

theorem nearestEven_mul {s : Nat} (hden : 0 < den) : nearestEven (s * den) den = s := by
  simp [nearestEven, Nat.mul_div_cancel _ hden, hden]

section Ratios

variable (hden : 0 < den)
include hden

theorem reaches_iff (e : Int) :
    (if 0 ≤ e then den * Nat.pow 2 e.toNat ≤ num else den ≤ num * Nat.pow 2 (-e).toNat) ↔
      (2 : ℚ) ^ e ≤ num / den := by
  have hden : (0 : ℚ) < den := by exact_mod_cast hden
  rw [le_div_iff₀ hden]
  split
  case isTrue he =>
    obtain ⟨n, rfl⟩ := Int.eq_ofNat_of_zero_le he
    rw [Int.toNat_natCast, zpow_natCast, mul_comm den]
    exact_mod_cast Iff.rfl
  case isFalse he =>
    obtain ⟨n, rfl⟩ : ∃ n : Nat, e = -n := ⟨(-e).toNat, by omega⟩
    rw [neg_neg, Int.toNat_natCast, zpow_neg, zpow_natCast, inv_mul_le_iff₀ (by positivity),
      mul_comm num]
    exact_mod_cast Iff.rfl

/-- A positive ratio lies between two successive powers of two. -/
theorem floorLog2_bounds (hnum : 0 < num) :
    (2 : ℚ) ^ floorLog2 num den ≤ num / den ∧ (num : ℚ) / den < 2 ^ (floorLog2 num den + 1) := by
  have hden' : (0 : ℚ) < den := by exact_mod_cast hden
  obtain ⟨hnumLow, hnumHigh⟩ := log2_bounds hnum
  obtain ⟨hdenLow, hdenHigh⟩ := log2_bounds hden
  unfold floorLog2
  dsimp only
  simp only [reaches_iff hden]
  split
  case isTrue hreaches =>
    refine ⟨hreaches, ?_⟩
    rw [div_lt_iff₀ hden']
    calc (num : ℚ) < 2 ^ ((num.log2 : ℤ) + 1) := hnumHigh
      _ = 2 ^ ((num.log2 : ℤ) - den.log2 + 1) * 2 ^ (den.log2 : ℤ) := by
        rw [← zpow_add₀ two_ne_zero]
        congr 1
        omega
      _ ≤ 2 ^ ((num.log2 : ℤ) - den.log2 + 1) * den := by gcongr
  case isFalse hreaches =>
    refine ⟨?_, by simpa using hreaches⟩
    rw [le_div_iff₀ hden']
    calc (2 : ℚ) ^ ((num.log2 : ℤ) - den.log2 - 1) * den
        ≤ 2 ^ ((num.log2 : ℤ) - den.log2 - 1) * 2 ^ ((den.log2 : ℤ) + 1) := by gcongr
      _ = 2 ^ (num.log2 : ℤ) := by
        rw [← zpow_add₀ two_ne_zero]
        congr 1
        omega
      _ ≤ num := hnumLow

variable {v : Magnitude} (hv : (num : ℚ) / den = v.value)
include hv

/-- The exponent that rounding takes is that of the magnitude. -/
theorem exponent_of_isNormal (hnum : 0 < num) (h : v.IsNormal f) :
    max f.minExponent (floorLog2 num den - f.fractionBits) = v.exponent := by
  obtain ⟨hleast, hlt, hfull⟩ := h
  obtain ⟨hlow, hhigh⟩ := floorLog2_bounds hden hnum
  rw [hv] at hlow hhigh
  have hone : (1 : ℚ) < 2 := by norm_num
  have hbelow : v.value < 2 ^ (v.exponent + f.fractionBits + 1) := by
    have hs : (v.significand : ℚ) < 2 * 2 ^ f.fractionBits := by exact_mod_cast hlt
    calc v.value < 2 * 2 ^ f.fractionBits * 2 ^ v.exponent := by unfold Magnitude.value; gcongr
      _ = 2 ^ (v.exponent + f.fractionBits + 1) := by
        rw [zpow_add₀ two_ne_zero, zpow_add₀ two_ne_zero, zpow_natCast, zpow_one]
        ring
  -- the leading bit is not above that of the magnitude, and below it only at the least exponent
  have hupper := (zpow_lt_zpow_iff_right₀ hone).1 (hlow.trans_lt hbelow)
  rcases hfull with hmin | hfull
  · omega
  · have habove : (2 : ℚ) ^ (v.exponent + f.fractionBits) ≤ v.value := by
      have hs : (2 : ℚ) ^ f.fractionBits ≤ v.significand := by exact_mod_cast hfull
      calc (2 : ℚ) ^ (v.exponent + f.fractionBits) = 2 ^ f.fractionBits * 2 ^ v.exponent := by
            rw [zpow_add₀ two_ne_zero, zpow_natCast, mul_comm]
        _ ≤ v.value := by unfold Magnitude.value; gcongr
    have hlower := (zpow_lt_zpow_iff_right₀ hone).1 (habove.trans_lt hhigh)
    omega

theorem nearestEven_of_value :
    (if 0 ≤ v.exponent then nearestEven num (den * Nat.pow 2 v.exponent.toNat)
      else nearestEven (num * Nat.pow 2 (-v.exponent).toNat) den) = v.significand := by
  obtain ⟨s, e⟩ := v
  have hden' : (0 : ℚ) < den := by exact_mod_cast hden
  rw [Magnitude.value, div_eq_iff hden'.ne'] at hv
  dsimp only at hv ⊢
  split
  case isTrue he =>
    obtain ⟨n, rfl⟩ := Int.eq_ofNat_of_zero_le he
    have hratio : num = s * (den * Nat.pow 2 n) := by
      rw [zpow_natCast, mul_assoc, mul_comm _ (den : ℚ)] at hv
      exact_mod_cast hv
    rw [Int.toNat_natCast, hratio]
    exact nearestEven_mul (Nat.mul_pos hden (Nat.pow_pos (by decide)))
  case isFalse he =>
    obtain ⟨n, rfl⟩ : ∃ n : Nat, e = -n := ⟨(-e).toNat, by omega⟩
    have hratio : num * Nat.pow 2 n = s * den := by
      rw [zpow_neg, zpow_natCast] at hv
      field_simp at hv
      exact_mod_cast hv
    rw [neg_neg, Int.toNat_natCast, hratio]
    exact nearestEven_mul hden

/-- A ratio that is a magnitude of the format is rounded to the position of the magnitude. -/
theorem nearestPosition_of_isNormal (h : v.IsNormal f) :
    nearestPosition f num den = v.position f := by
  rcases Nat.eq_zero_or_pos num with rfl | hnum
  · have hs : v.significand = 0 := by
      rw [Nat.cast_zero, zero_div, Magnitude.value] at hv
      exact_mod_cast (mul_eq_zero.1 hv.symm).resolve_right (zpow_ne_zero _ two_ne_zero)
    have he : v.exponent = f.minExponent := by
      refine h.full.resolve_right fun hfull => ?_
      have := f.full_pos
      omega
    simp [nearestPosition, Magnitude.position, hs, he]
  · unfold nearestPosition
    rw [if_neg hnum.ne']
    dsimp only
    rw [exponent_of_isNormal hden hv hnum h, nearestEven_of_value hden hv]
    rfl

end Ratios

theorem ofMagnitude_of_isNormal {u v : Magnitude} (h : v.IsNormal f) (hv : u.value = v.value)
    (negative : Bool) : ofMagnitude f negative u = ofPosition f negative (v.position f) := by
  unfold ofMagnitude ofRatio
  split
  case isTrue he =>
    rw [nearestPosition_of_isNormal Nat.one_pos _ h]
    obtain ⟨n, hn⟩ := Int.eq_ofNat_of_zero_le he
    rw [← hv, Magnitude.value, hn]
    simp
  case isFalse he =>
    obtain ⟨n, hn⟩ : ∃ n : Nat, u.exponent = -n := ⟨(-u.exponent).toNat, by omega⟩
    have hpos : 0 < Nat.pow 2 (-u.exponent).toNat := Nat.pow_pos (by decide)
    rw [nearestPosition_of_isNormal hpos _ h]
    rw [← hv, Magnitude.value, hn]
    simp [div_eq_mul_inv]

/-! ### Wider formats -/

/-- The format `g` has all magnitudes of `f`, and none of them among those equally spaced at its low
end. -/
structure Format.Within (f g : Format) : Prop where
  exponents : 2 ≤ f.exponentBits
  fraction : f.fractionBits ≤ g.fractionBits
  least : g.minExponent + g.fractionBits ≤ f.minExponent
  greatest : f.minExponent + (2 ^ f.exponentBits : Nat) ≤ g.minExponent + (2 ^ g.exponentBits : Nat)

theorem Format.within_binary64 : Format.Within .binary32 .binary64 :=
  ⟨by decide, by decide, by decide, by decide⟩

namespace Magnitude

/-- The exponent of a finite magnitude is at least two below that of infinity. -/
theorem exponent_magnitudeAt_lt (hf : 2 ≤ f.exponentBits) {k : Nat} (hk : k < f.magnitudes) :
    (magnitudeAt f k).exponent + 2 < f.minExponent + (2 ^ f.exponentBits : Nat) := by
  have hpow : 2 ^ 2 ≤ 2 ^ f.exponentBits := Nat.pow_le_pow_right (by decide) hf
  have hdiv : k / f.full < 2 ^ f.exponentBits - 1 := (Nat.div_lt_iff_lt_mul f.full_pos).2 hk
  rw [magnitudeAt_eq]
  split
  case isTrue => dsimp only; omega
  case isFalse h =>
    dsimp only
    generalize k / f.full = q at *
    omega

/-- The magnitude with the significand shifted until its leading bit is the one not stored. -/
theorem exists_isNormal_of_pos {v : Magnitude} (hpos : 0 < v.significand)
    (hlt : v.significand < 2 * g.full) (hleast : g.minExponent + g.fractionBits ≤ v.exponent) :
    ∃ w : Magnitude, w.IsNormal g ∧ w.value = v.value ∧ w.exponent ≤ v.exponent := by
  obtain ⟨s, e⟩ := v
  dsimp only at hpos hlt hleast
  have hlog : s.log2 ≤ g.fractionBits := by
    have hlt : s < 2 ^ (g.fractionBits + 1) := by
      rw [Nat.pow_succ']
      exact hlt
    exact Nat.lt_succ_iff.1 ((Nat.log2_lt hpos.ne').2 hlt)
  obtain ⟨j, hj⟩ : ∃ j, g.fractionBits = s.log2 + j := ⟨_, (Nat.add_sub_cancel' hlog).symm⟩
  have hfull : g.full = 2 ^ s.log2 * 2 ^ j := by
    rw [← Nat.pow_add, ← hj]
    rfl
  refine ⟨⟨s * 2 ^ j, e - j⟩, ⟨?_, ?_, .inr ?_⟩, ?_, ?_⟩
  · dsimp only
    omega
  · rw [hfull, ← Nat.mul_assoc, ← Nat.pow_succ']
    exact Nat.mul_lt_mul_of_pos_right Nat.lt_log2_self (Nat.pow_pos (by decide))
  · rw [hfull]
    exact Nat.mul_le_mul_right _ (Nat.log2_self_le hpos.ne')
  · unfold value
    push_cast
    rw [mul_assoc, ← zpow_natCast (2 : ℚ) j, ← zpow_add₀ two_ne_zero, add_sub_cancel]
  · dsimp only
    omega

theorem position_lt {v : Magnitude} (h : v.IsNormal g)
    (hlt : v.exponent + 2 < g.minExponent + (2 ^ g.exponentBits : Nat)) :
    v.position g < g.magnitudes := by
  obtain ⟨n, hn⟩ : ∃ n : Nat, v.exponent = g.minExponent + n :=
    ⟨(v.exponent - g.minExponent).toNat, by have := h.least; omega⟩
  have hle : n + 2 ≤ 2 ^ g.exponentBits - 1 := by omega
  calc v.position g = n * g.full + v.significand := by simp [position, hn]
    _ < n * g.full + 2 * g.full := Nat.add_lt_add_left h.lt _
    _ = (n + 2) * g.full := (Nat.add_mul ..).symm
    _ ≤ g.magnitudes := Nat.mul_le_mul_right _ hle

/-- Each magnitude of a format is one of a wider format. -/
theorem exists_isNormal (h : f.Within g) {k : Nat} (hk : k < f.magnitudes) :
    ∃ w : Magnitude, w.IsNormal g ∧ w.value = (magnitudeAt f k).value ∧
      w.position g < g.magnitudes := by
  have hnormal := isNormal_magnitudeAt f k
  have hexponent := exponent_magnitudeAt_lt h.exponents hk
  have hgreatest := h.greatest
  have hleast : g.minExponent + g.fractionBits ≤ (magnitudeAt f k).exponent :=
    h.least.trans hnormal.least
  rcases Nat.eq_zero_or_pos (magnitudeAt f k).significand with hs | hs
  · have hzero : IsNormal g ⟨0, g.minExponent⟩ :=
      ⟨Int.le_refl _, Nat.mul_pos (by decide) g.full_pos, .inl rfl⟩
    refine ⟨⟨0, g.minExponent⟩, hzero, by simp [value, hs], position_lt hzero ?_⟩
    dsimp only
    omega
  · have hfull : f.full ≤ g.full := Nat.pow_le_pow_right (by decide) h.fraction
    have hlt : (magnitudeAt f k).significand < 2 * g.full :=
      hnormal.lt.trans_le (Nat.mul_le_mul_left 2 hfull)
    obtain ⟨w, hw, hvalue, hle⟩ := exists_isNormal_of_pos hs hlt hleast
    exact ⟨w, hw, hvalue, position_lt hw (by omega)⟩

end Magnitude

/-- A finite number of a format is one of a wider format, with the same sign and magnitude. -/
theorem exists_convert (h : f.Within g) (negative : Bool) (k : Fin f.magnitudes) :
    ∃ j : Fin g.magnitudes, (finite negative k).convert g = .finite negative j ∧
      (magnitudeAt g j).value = (magnitudeAt f k).value := by
  obtain ⟨w, hw, hvalue, hlt⟩ := Magnitude.exists_isNormal h k.isLt
  refine ⟨⟨w.position g, hlt⟩, ?_, ?_⟩
  · rw [convert, ofMagnitude_of_isNormal hw hvalue.symm, ofPosition, dif_pos hlt]
  · rw [Magnitude.magnitudeAt_position hw, hvalue]

/-- A number taken to a wider format and back is the same number. -/
theorem convert_convert (h : f.Within g) (x : Binary f) : (x.convert g).convert f = x := by
  cases x with
  | nan => rfl
  | infinite negative => rfl
  | finite negative k =>
    obtain ⟨j, hwide, hvalue⟩ := exists_convert h negative k
    rw [hwide, convert, ofMagnitude_of_isNormal (Magnitude.isNormal_magnitudeAt f k) hvalue,
      Magnitude.position_magnitudeAt, ofPosition, dif_pos k.isLt]

end XPathExtension.Binary
