import XPathExtension.Binary.Text
import XPathExtension.Proofs.Digits
import XPathExtension.Proofs.Nearest

/-!
Texts of binary numbers read back. The shortest decimal of a number, written without an exponent,
is a numeral of the same value, and a numeral whose value is rounded to a number is read as that
number.
-/

namespace XPathExtension

open Text (AreDigits EndsDigits IsUnblank digitsValue)

/-! ### Decimals without an exponent -/

namespace Decimal

/-- A text with the digits before and after a point, which is left out before no digits. -/
def pointed (whole fraction : List Char) : List Char :=
  whole ++ if fraction = [] then [] else '.' :: fraction

/-- The digits before and after a point stand for the value of a decimal. -/
structure IsShownBy (d : Decimal) (whole fraction : List Char) : Prop where
  nonempty : whole ≠ []
  digitsBefore : AreDigits whole
  digitsAfter : AreDigits fraction
  value : (digitsValue (whole ++ fraction) : ℚ) * 10 ^ (0 - fraction.length : ℤ) = d.value

theorem isShownBy_integer (n j : Nat) :
    IsShownBy ⟨n, j⟩ (Nat.toDigits 10 n ++ List.replicate j '0') [] where
  nonempty := by simp [Nat.toDigits_ne_nil]
  digitsBefore := (Text.areDigits_toDigits n).append (Text.areDigits_zeros j)
  digitsAfter := by simp [AreDigits]
  value := by
    rw [List.append_nil, Text.digitsValue_append_zeros, Text.digitsValue_toDigits, Decimal.value,
      zpow_natCast]
    simp

/-- The last digits stand after the point. -/
theorem isShownBy_split {n j : Nat} (h : j < (Nat.toDigits 10 n).length) :
    IsShownBy ⟨n, -j⟩ ((Nat.toDigits 10 n).take ((Nat.toDigits 10 n).length - j))
      ((Nat.toDigits 10 n).drop ((Nat.toDigits 10 n).length - j)) where
  nonempty := by
    rw [← List.length_pos_iff, List.length_take]
    omega
  digitsBefore c hc := Text.areDigits_toDigits n c (List.mem_of_mem_take hc)
  digitsAfter c hc := Text.areDigits_toDigits n c (List.mem_of_mem_drop hc)
  value := by
    have hlength : ((Nat.toDigits 10 n).drop ((Nat.toDigits 10 n).length - j)).length = j := by
      rw [List.length_drop]
      omega
    rw [List.take_append_drop, Text.digitsValue_toDigits, hlength, zero_sub, Decimal.value]

/-- All digits stand after the point, with zeros in front. -/
theorem isShownBy_small {n j : Nat} (h : (Nat.toDigits 10 n).length ≤ j) :
    IsShownBy ⟨n, -j⟩ ['0']
      (List.replicate (j - (Nat.toDigits 10 n).length) '0' ++ Nat.toDigits 10 n) where
  nonempty := List.cons_ne_nil _ _
  digitsBefore := Text.areDigits_zeros 1
  digitsAfter := (Text.areDigits_zeros _).append (Text.areDigits_toDigits n)
  value := by
    have hlength : (List.replicate (j - (Nat.toDigits 10 n).length) '0' ++
        Nat.toDigits 10 n).length = j := by
      rw [List.length_append, List.length_replicate]
      omega
    have hzeros (zeros : Nat) (ds : List Char) :
        ['0'] ++ (List.replicate zeros '0' ++ ds) = List.replicate (zeros + 1) '0' ++ ds := by
      rw [List.replicate_succ]
      rfl
    rw [hlength, hzeros, Text.digitsValue_zeros_append, Text.digitsValue_toDigits, zero_sub,
      Decimal.value]

/-- The text of a decimal without an exponent shows its value. -/
theorem exists_positional (d : Decimal) :
    ∃ whole fraction, d.positional 0 = pointed whole fraction ∧ d.IsShownBy whole fraction := by
  obtain ⟨n, e⟩ := d
  have hpointed (whole fraction : List Char) :
      (if fraction = [] then whole else whole ++ ['.'] ++ fraction) = pointed whole fraction := by
    unfold pointed
    split <;> simp
  unfold positional
  simp only [Nat.zero_sub, List.replicate_zero, List.append_nil, hpointed]
  by_cases he : 0 ≤ e
  · obtain ⟨j, rfl⟩ := Int.eq_ofNat_of_zero_le he
    rw [if_pos he]
    exact ⟨_, _, by simp [pointed], isShownBy_integer n j⟩
  · obtain ⟨j, rfl⟩ : ∃ j : Nat, e = -j := ⟨(-e).toNat, by omega⟩
    rw [if_neg he, neg_neg, Int.toNat_natCast]
    by_cases hlt : j < (Nat.toDigits 10 n).length
    · rw [if_pos hlt]
      exact ⟨_, _, rfl, isShownBy_split hlt⟩
    · rw [if_neg hlt]
      exact ⟨_, _, rfl, isShownBy_small (Nat.not_lt.1 hlt)⟩

end Decimal

/-! ### Numerals -/

namespace Numeral

variable {whole fraction : List Char}

theorem sign_append (negative : Bool) (hne : whole ≠ []) (hw : AreDigits whole)
    (r : List Char) :
    sign (Binary.signText negative ++ (whole ++ r)) = (negative, whole ++ r) := by
  cases negative with
  | true => rfl
  | false =>
    change sign (whole ++ r) = _
    unfold sign
    split
    case h_1 heq => exact absurd heq (hw.append_ne_cons hne rfl _ _)
    case h_2 heq => exact absurd heq (hw.append_ne_cons hne rfl _ _)
    case h_3 => rfl

theorem read?_pointed (negative : Bool) (hne : whole ≠ []) (hw : AreDigits whole)
    (hf : AreDigits fraction) :
    read? (Binary.signText negative ++ Decimal.pointed whole fraction) =
      some ⟨negative, whole, fraction, 0⟩ := by
  have hrest : EndsDigits (if fraction = [] then [] else '.' :: fraction) := by
    split
    · simp [EndsDigits]
    · exact Text.endsDigits_cons rfl _
  unfold read? Decimal.pointed
  rw [sign_append negative hne hw]
  dsimp only
  rw [Text.takeWhile_digits hw hrest, Text.dropWhile_digits hw hrest]
  by_cases hempty : fraction = []
  · simp [hempty, hne, power?]
  · have htake := Text.takeWhile_digits hf (r := []) (by simp [EndsDigits])
    have hdrop := Text.dropWhile_digits hf (r := []) (by simp [EndsDigits])
    rw [List.append_nil] at htake hdrop
    simp [hempty, hne, power?, htake, hdrop]

end Numeral

namespace Binary

/-! ### Decimals that are rounded to a number -/

theorem pow_leading_le {n : Nat} (hn : 0 < n) (e : ℤ) :
    (10 : ℚ) ^ ((Nat.toDigits 10 n).length + e - 1) ≤ n * 10 ^ e ∧
      (n : ℚ) * 10 ^ e < 10 ^ ((Nat.toDigits 10 n).length + e) := by
  have hten : (10 : ℚ) ≠ 0 := by norm_num
  have hlength := Nat.length_toDigits_pos (b := 10) (n := n)
  constructor
  · have hlow : 10 ^ ((Nat.toDigits 10 n).length - 1) ≤ n := by
      by_contra hlt
      rcases Nat.eq_zero_or_pos ((Nat.toDigits 10 n).length - 1) with hzero | hpos
      · rw [hzero] at hlt
        omega
      · have := (Nat.length_toDigits_le_iff (by decide) hpos).2 (Nat.not_le.1 hlt)
        omega
    have hcast : ((10 ^ ((Nat.toDigits 10 n).length - 1) : Nat) : ℚ) =
        10 ^ ((Nat.toDigits 10 n).length - 1 : ℤ) := by
      rw [Nat.cast_pow, ← zpow_natCast, Nat.cast_sub hlength]
      norm_num
    calc (10 : ℚ) ^ ((Nat.toDigits 10 n).length + e - 1)
        = 10 ^ ((Nat.toDigits 10 n).length - 1 : ℤ) * 10 ^ e := by
          rw [← zpow_add₀ hten]
          congr 1
          ring
      _ ≤ n * 10 ^ e := by
          rw [← hcast]
          gcongr
  · have hhigh : n < 10 ^ (Nat.toDigits 10 n).length :=
      (Nat.length_toDigits_le_iff (by decide) hlength).1 (Nat.le_refl _)
    rw [zpow_add₀ hten, zpow_natCast]
    gcongr
    exact_mod_cast hhigh

theorem two_zpow_lt_ten_zpow : (2 : ℚ) ^ (1075 : ℤ) < 10 ^ (400 : ℤ) := by
  have hnat : 2 ^ 1075 < 10 ^ 400 := by decide +kernel
  exact_mod_cast hnat

/-- Values that are rounded to a finite number other than zero are far inside the bounds where
exponents are cut off. -/
theorem RoundsTo.bounds {k : Nat} (hk : 0 < k) (hlt : k < Format.binary64.magnitudes) {x : ℚ}
    (h : RoundsTo .binary64 k x) : (10 : ℚ) ^ (-400 : ℤ) < x ∧ x < 10 ^ (400 : ℤ) := by
  have hs : (1 : ℚ) ≤ (magnitudeAt .binary64 k).significand := by
    exact_mod_cast significand_pos hk
  have hb : (quartersBelow .binary64 k : ℚ) ≤ 2 := by exact_mod_cast quartersBelow_le _ k
  have hnormal := Magnitude.isNormal_magnitudeAt .binary64 k
  have hexponent := Magnitude.exponent_magnitudeAt_lt (f := .binary64) (by decide) hlt
  obtain ⟨hlow, hhigh, -⟩ := h
  generalize magnitudeAt .binary64 k = v at *
  obtain ⟨s, e⟩ := v
  obtain ⟨hleast, hsignificand, -⟩ := hnormal
  dsimp only at *
  have hmin : Format.minExponent .binary64 = -1074 := by decide
  rw [hmin] at hleast hexponent
  have hpos : (0 : ℚ) < 2 ^ e := zpow_pos two_pos e
  constructor
  · have hleast : (2 : ℚ) ^ (-1074 : ℤ) ≤ 2 ^ e := zpow_le_zpow_right₀ one_le_two hleast
    calc (10 : ℚ) ^ (-400 : ℤ) < (2 ^ (1075 : ℤ))⁻¹ := by
          rw [zpow_neg, inv_lt_inv₀ (by positivity) (by positivity)]
          exact two_zpow_lt_ten_zpow
      _ = 1 / 2 * 2 ^ (-1074 : ℤ) := by
          rw [zpow_neg, show (1075 : ℤ) = 1 + 1074 from rfl, zpow_add₀ two_ne_zero, mul_inv,
            zpow_one, one_div]
      _ ≤ 1 / 2 * 2 ^ e := mul_le_mul_of_nonneg_left hleast (by norm_num)
      _ ≤ (s - quartersBelow .binary64 k / 4) * 2 ^ e :=
          mul_le_mul_of_nonneg_right (by linarith) hpos.le
      _ ≤ x := hlow
  · have hfull : (s : ℚ) + 1 ≤ 2 ^ 53 := by exact_mod_cast hsignificand
    have he : e ≤ 971 := by
      have : (2 ^ Format.binary64.exponentBits : Nat) = 2048 := by decide
      omega
    calc x ≤ (s + 1 / 2) * 2 ^ e := hhigh
      _ ≤ 2 ^ (53 : ℤ) * 2 ^ e := mul_le_mul_of_nonneg_right (by norm_num at *; linarith) hpos.le
      _ = 2 ^ (53 + e) := (zpow_add₀ (two_ne_zero' ℚ) _ _).symm
      _ ≤ 2 ^ (1075 : ℤ) := zpow_le_zpow_right₀ one_le_two (by omega)
      _ < 10 ^ (400 : ℤ) := two_zpow_lt_ten_zpow

theorem ofDecimal_zero (negative : Bool) (e : ℤ) :
    ofDecimal .binary64 negative 0 e = zero .binary64 negative := by
  simp [ofDecimal]

/-- Where reading does not give up for the exponent, a decimal is rounded as the ratio it is. -/
theorem exists_ofDecimal_eq {n : Nat} (hn : 0 < n) {e : ℤ}
    (hsmall : -400 ≤ (Nat.toDigits 10 n).length + e)
    (hlarge : (Nat.toDigits 10 n).length + e ≤ 400) (f : Format) (negative : Bool) :
    ∃ num den : Nat, 0 < den ∧ (num : ℚ) / den = n * 10 ^ e ∧
      ofDecimal f negative n e = ofRatio f negative num den := by
  unfold ofDecimal
  dsimp only
  rw [if_neg (by omega), if_neg (by omega)]
  split
  case isTrue he =>
    obtain ⟨j, rfl⟩ := Int.eq_ofNat_of_zero_le he
    refine ⟨n * Nat.pow 10 j, 1, Nat.one_pos, ?_, rfl⟩
    rw [zpow_natCast, Nat.cast_one, div_one]
    exact_mod_cast rfl
  case isFalse he =>
    obtain ⟨j, rfl⟩ : ∃ j : Nat, e = -j := ⟨(-e).toNat, by omega⟩
    rw [neg_neg, Int.toNat_natCast]
    refine ⟨n, Nat.pow 10 j, Nat.pow_pos (by decide), ?_, rfl⟩
    have hcast : ((Nat.pow 10 j : Nat) : ℚ) = 10 ^ j := by exact_mod_cast rfl
    rw [hcast, zpow_neg, zpow_natCast, div_eq_mul_inv]

theorem ofDecimal_of_roundsTo {k : Nat} (hk : 0 < k) (hlt : k < Format.binary64.magnitudes)
    {n : Nat} {e : ℤ} (h : RoundsTo .binary64 k (n * 10 ^ e)) (negative : Bool) :
    ofDecimal .binary64 negative n e = .finite negative ⟨k, hlt⟩ := by
  have hten : (1 : ℚ) < 10 := by norm_num
  obtain ⟨hlow, hhigh⟩ := h.bounds hk hlt
  have hn : 0 < n := by
    rcases Nat.eq_zero_or_pos n with rfl | hn
    · rw [Nat.cast_zero, zero_mul] at hlow
      exact absurd hlow (not_lt.2 (by positivity))
    · exact hn
  obtain ⟨hfirst, hlast⟩ := pow_leading_le hn e
  -- neither of the exponents where reading gives up is reached
  have hsmall := (zpow_lt_zpow_iff_right₀ hten).1 (hlow.trans hlast)
  have hlarge := (zpow_lt_zpow_iff_right₀ hten).1 (hfirst.trans_lt hhigh)
  obtain ⟨num, den, hden, hvalue, hratio⟩ :=
    exists_ofDecimal_eq (e := e) hn (by omega) (by omega) .binary64 negative
  have hnum : 0 < num := by
    have hpos : (0 : ℚ) < num / den := by rw [hvalue]; positivity
    rcases Nat.eq_zero_or_pos num with rfl | hnum
    · rw [Nat.cast_zero, zero_div] at hpos
      exact absurd hpos (lt_irrefl _)
    · exact hnum
  rw [hratio, ofRatio, nearestPosition_of_roundsTo hden hnum (hvalue ▸ h), ofPosition, dif_pos hlt]

/-! ### Texts of numbers -/

theorem exists_finite_text (negative : Bool) (k : Fin Format.binary64.magnitudes) :
    ∃ whole fraction, (finite (f := .binary64) negative k).text.toList =
        signText negative ++ Decimal.pointed whole fraction ∧
      (shortest .binary64 k).IsShownBy whole fraction := by
  obtain ⟨whole, fraction, htext, hshown⟩ := (shortest .binary64 k).exists_positional
  exact ⟨whole, fraction, by rw [text, String.toList_ofList, htext], hshown⟩

theorem isUnblank_text (d : Binary64) : IsUnblank d.text.toList := by
  cases d with
  | nan => decide
  | infinite negative => cases negative <;> decide
  | finite negative k =>
    obtain ⟨whole, fraction, htext, -, hw, hf, -⟩ := exists_finite_text negative k
    rw [htext]
    refine Text.isUnblank_append.2 ⟨?_, Text.isUnblank_append.2 ⟨hw.isUnblank, ?_⟩⟩
    · cases negative <;> decide
    · split
      · simp [IsUnblank]
      · exact Text.isUnblank_cons.2 ⟨by decide, hf.isUnblank⟩

/-- Reading the text of a number gives the number. -/
theorem ofText?_text (d : Binary64) : ofText? .binary64 d.text.toList = some d := by
  cases d with
  | nan => decide
  | infinite negative => cases negative <;> decide
  | finite negative k =>
    obtain ⟨whole, fraction, htext, hne, hw, hf, hvalue⟩ := exists_finite_text negative k
    obtain ⟨c, whole, rfl⟩ := List.exists_cons_of_ne_nil hne
    have hnamed (name : List Char) (hname : name.all (fun c => !c.isDigit) = true) :
        signText negative ++ Decimal.pointed (c :: whole) fraction ≠ name := by
      rintro rfl
      have hletter := List.all_eq_true.1 hname c (by simp [Decimal.pointed])
      rw [hw c (by simp)] at hletter
      cases hletter
    rw [htext, ofText?, if_neg, if_neg, if_neg, Numeral.read?_pointed negative hne hw hf]
    · rw [Option.map_some, Option.some.injEq, Numeral.toBinary]
      dsimp only
      rcases Nat.eq_zero_or_pos k.val with hzero | hk
      · have hdigits : digitsValue (c :: whole ++ fraction) = 0 := by
          rw [hzero] at hvalue
          simpa [shortest, Decimal.value, zpow_ne_zero] using hvalue
        rw [hdigits, ofDecimal_zero, zero, ofPosition, dif_pos (by decide)]
        congr 1
        exact Fin.ext hzero.symm
      · have hrounds := roundsTo_shortest (f := .binary64) hk
        rw [← hvalue] at hrounds
        exact ofDecimal_of_roundsTo hk k.isLt hrounds negative
    · exact hnamed _ (by decide)
    · exact hnamed _ (by decide)
    · rintro (heq | heq)
      · exact hnamed _ (by decide) heq
      · exact hnamed _ (by decide) heq

end Binary

end XPathExtension
