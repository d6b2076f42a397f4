import XPathExtension.Proofs.Numerals

/-!
Where the finite numbers of a format end. A value is rounded to a finite number if and only if it is
less than half a last place above the greatest one; the value exactly there is rounded to the even
significand, which is the one of infinity.
-/

namespace XPathExtension.Binary

variable {f : Format} {num den n : Nat} {q : Int}

/-! ### Rounding to an integer -/

theorem div_le_nearestEven (num den : Nat) : num / den ≤ nearestEven num den := by
  unfold nearestEven
  dsimp only
  split
  · omega
  · split <;> omega

theorem nearestEven_le_succ (num den : Nat) : nearestEven num den ≤ num / den + 1 := by
  unfold nearestEven
  dsimp only
  split
  · omega
  · split <;> omega

theorem nearestEven_le (h : num < n * den) : nearestEven num den ≤ n := by
  have hquotient : num / den < n := Nat.div_lt_of_lt_mul (by rwa [Nat.mul_comm])
  exact (nearestEven_le_succ num den).trans hquotient

theorem le_nearestEven (hden : 0 < den) (h : n * den ≤ num) : n ≤ nearestEven num den :=
  ((Nat.le_div_iff_mul_le hden).2 h).trans (div_le_nearestEven num den)

/-- What is halfway below an even number is rounded up to it. -/
theorem nearestEven_lt_iff (hden : 0 < den) (heven : n % 2 = 0) :
    nearestEven num den < n ↔ 2 * num + den < 2 * n * den := by
  have hdiv := Nat.div_add_mod num den
  have hmod := Nat.mod_lt num hden
  by_cases hlast : num / den + 1 = n
  · have hhalf : nearestEven num den < n ↔ 2 * (num % den) < den := by
      unfold nearestEven
      dsimp only
      split
      · omega
      · split <;> omega
    have hn : n * den = den * (num / den) + den := by
      rw [← hlast, Nat.succ_mul, Nat.mul_comm]
    have hdouble : 2 * n * den = 2 * (den * (num / den)) + 2 * den := by
      rw [Nat.mul_assoc, hn]
      ring
    rw [hhalf, hdouble]
    omega
  · constructor
    · intro h
      have hquotient : num / den + 2 ≤ n := by
        have hle := (div_le_nearestEven num den).trans_lt h
        omega
      have hmul : (num / den + 2) * den ≤ n * den := Nat.mul_le_mul_right den hquotient
      nlinarith
    · intro h
      have hquotient : num / den < n := by
        apply Nat.div_lt_of_lt_mul
        nlinarith
      have hle := nearestEven_le_succ num den
      omega

/-! ### Rounding to a multiple of a power of two -/

/-- The ratio rounded in units of a power of two. -/
def nearestMultiple (num den : Nat) (q : Int) : Nat :=
  if 0 ≤ q then nearestEven num (den * Nat.pow 2 q.toNat)
  else nearestEven (num * Nat.pow 2 (-q).toNat) den

section Multiples

variable (hden : 0 < den)
include hden

theorem exists_nearestMultiple (num : Nat) (q : Int) :
    ∃ num' den' : Nat, 0 < den' ∧ (num' : ℚ) = num / den / 2 ^ q * den' ∧
      nearestMultiple num den q = nearestEven num' den' := by
  obtain ⟨num', den', hden', hratio, hnearest⟩ := @exists_scaled num den hden q
  have hpos : (0 : ℚ) < den' := by exact_mod_cast hden'
  exact ⟨num', den', hden', (div_eq_iff hpos.ne').1 hratio, hnearest⟩

theorem nearestMultiple_le (h : (num : ℚ) / den < n * 2 ^ q) : nearestMultiple num den q ≤ n := by
  obtain ⟨num', den', hden', hratio, hnearest⟩ := exists_nearestMultiple hden num q
  have hpos : (0 : ℚ) < den' := by exact_mod_cast hden'
  rw [← div_lt_iff₀ (by positivity)] at h
  rw [hnearest]
  apply nearestEven_le
  have hlt : (num' : ℚ) < n * den' := by
    rw [hratio]
    gcongr
  exact_mod_cast hlt

theorem le_nearestMultiple (h : (n : ℚ) * 2 ^ q ≤ num / den) : n ≤ nearestMultiple num den q := by
  obtain ⟨num', den', hden', hratio, hnearest⟩ := exists_nearestMultiple hden num q
  rw [← le_div_iff₀ (by positivity)] at h
  rw [hnearest]
  apply le_nearestEven hden'
  have hle : (n : ℚ) * den' ≤ num' := by
    rw [hratio]
    gcongr
  exact_mod_cast hle

theorem nearestMultiple_lt_iff (heven : n % 2 = 0) :
    nearestMultiple num den q < n ↔ (num : ℚ) / den < (n - 1 / 2) * 2 ^ q := by
  obtain ⟨num', den', hden', hratio, hnearest⟩ := exists_nearestMultiple hden num q
  have hpos : (0 : ℚ) < den' := by exact_mod_cast hden'
  rw [hnearest, nearestEven_lt_iff hden' heven, ← div_lt_iff₀ (by positivity)]
  have hcast : 2 * num' + den' < 2 * n * den' ↔ (2 * num' + den' : ℚ) < 2 * n * den' := by
    exact_mod_cast Iff.rfl
  rw [hcast, hratio]
  constructor
  · intro h
    by_contra hle
    nlinarith
  · intro h
    nlinarith

end Multiples

/-! ### The greatest numbers -/

namespace Format

/-- The exponent of the last place of the greatest magnitudes. -/
def maxExponent (f : Format) : Int := f.minExponent + (2 ^ f.exponentBits : Nat) - 3

/-- Half a last place above the greatest magnitude. -/
def limit (f : Format) : ℚ := (2 * f.full - 1 / 2) * 2 ^ f.maxExponent

theorem limit_binary64 : limit .binary64 = 2 ^ 1024 - 2 ^ 970 := by
  have hfull : ((full .binary64 : Nat) : ℚ) = 2 ^ 52 := by exact_mod_cast rfl
  have hexponent : maxExponent .binary64 = (971 : Nat) := by decide
  have hhalf : 1 / 2 * (2 : ℚ) ^ 971 = 2 ^ 970 := by
    rw [pow_succ]
    generalize (2 : ℚ) ^ 970 = p
    ring
  rw [limit, hfull, hexponent, zpow_natCast, sub_mul, hhalf, ← pow_succ', ← pow_add]

section Limits

variable {x : ℚ}

theorem full_mul_lt_limit (f : Format) : f.full * 2 ^ f.maxExponent < f.limit := by
  have hfull : (1 : ℚ) ≤ f.full := by exact_mod_cast f.full_pos
  unfold limit
  gcongr
  linarith

theorem two_zpow_lt_limit (f : Format) : 2 ^ f.maxExponent < f.limit := by
  have hfull : (1 : ℚ) ≤ f.full := by exact_mod_cast f.full_pos
  exact (le_mul_of_one_le_left (by positivity) hfull).trans_lt f.full_mul_lt_limit

theorem limit_pos (f : Format) : 0 < f.limit := lt_of_le_of_lt (by positivity) f.full_mul_lt_limit

/-- With a smaller unit than the greatest one all values are below the limit. -/
theorem lt_limit (h : x < 2 * f.full * 2 ^ q) (hq : q < f.maxExponent) : x < f.limit := by
  calc x < 2 * f.full * 2 ^ q := h
    _ = f.full * 2 ^ (q + 1) := by
      rw [zpow_add_one₀ two_ne_zero]
      ring
    _ ≤ f.full * 2 ^ f.maxExponent := by
      gcongr
      · exact one_le_two
      · omega
    _ < f.limit := f.full_mul_lt_limit

/-- With a larger unit than the greatest one no value is below the limit. -/
theorem limit_le (h : f.full * 2 ^ q ≤ x) (hq : f.maxExponent < q) : f.limit ≤ x := by
  calc f.limit ≤ 2 * f.full * 2 ^ f.maxExponent := by
        unfold limit
        gcongr
        linarith
    _ = f.full * 2 ^ (f.maxExponent + 1) := by
      rw [zpow_add_one₀ two_ne_zero]
      ring
    _ ≤ f.full * 2 ^ q := by
      gcongr
      · exact one_le_two
      · omega
    _ ≤ x := h

end Limits

/-- There are magnitudes with the least unit, as many again for it and for each larger one. -/
theorem exists_magnitudes_eq (hf : 2 ≤ f.exponentBits) :
    ∃ last : Nat, (last : Int) = f.maxExponent - f.minExponent ∧
      f.magnitudes = (last + 2) * f.full := by
  have hpow : 2 ^ 2 ≤ 2 ^ f.exponentBits := Nat.pow_le_pow_right (by decide) hf
  have hcount : Nat.pow 2 f.exponentBits - 1 = 2 ^ f.exponentBits - 3 + 2 := by
    change 2 ^ f.exponentBits - 1 = _
    omega
  refine ⟨2 ^ f.exponentBits - 3, ?_, ?_⟩
  · unfold maxExponent
    omega
  · rw [magnitudes, hcount]
    rfl

end Format

theorem nearestPosition_eq (hnum : num ≠ 0) : nearestPosition f num den =
    (max f.minExponent (floorLog2 num den - f.fractionBits) - f.minExponent).toNat * f.full +
      nearestMultiple num den (max f.minExponent (floorLog2 num den - f.fractionBits)) := by
  rw [nearestPosition, if_neg hnum]
  rfl

section Ratios

variable (hden : 0 < den)
include hden

/-- The unit that rounding takes is small enough for the ratio, and not too small unless it is the
least unit. -/
theorem ratio_bounds (hnum : 0 < num)
    (hq : max f.minExponent (floorLog2 num den - f.fractionBits) = q) :
    (num : ℚ) / den < 2 * f.full * 2 ^ q ∧
      (f.minExponent < q → (f.full : ℚ) * 2 ^ q ≤ num / den) := by
  obtain ⟨hlow, hhigh⟩ := floorLog2_bounds hden hnum
  constructor
  · calc (num : ℚ) / den < 2 ^ (floorLog2 num den + 1) := hhigh
      _ ≤ 2 ^ ((f.fractionBits : ℤ) + q + 1) := zpow_le_zpow_right₀ one_le_two (by omega)
      _ = 2 * f.full * 2 ^ q := by
        rw [zpow_add_one₀ two_ne_zero, ← full_mul_zpow]
        ring
  · intro hmin
    calc (f.full : ℚ) * 2 ^ q = 2 ^ ((f.fractionBits : ℤ) + q) := full_mul_zpow f q
      _ = 2 ^ floorLog2 num den := by
        congr 1
        omega
      _ ≤ num / den := hlow

/-- A ratio is rounded to a finite magnitude if and only if it is below the limit. -/
theorem nearestPosition_lt_magnitudes_iff (hf : 2 ≤ f.exponentBits) :
    nearestPosition f num den < f.magnitudes ↔ (num : ℚ) / den < f.limit := by
  obtain ⟨last, hlast, hmagnitudes⟩ := Format.exists_magnitudes_eq hf
  have hfull := f.full_pos
  rcases Nat.eq_zero_or_pos num with rfl | hnum
  · have hzero : nearestPosition f 0 den = 0 := rfl
    rw [hzero, hmagnitudes, Nat.cast_zero, zero_div]
    exact iff_of_true (by positivity) f.limit_pos
  · rw [nearestPosition_eq hnum.ne', hmagnitudes]
    generalize hq : max f.minExponent (floorLog2 num den - f.fractionBits) = q
    obtain ⟨hbelow, habove⟩ := ratio_bounds hden hnum hq
    obtain ⟨j, hj⟩ : ∃ j : Nat, (j : Int) = q - f.minExponent :=
      ⟨(q - f.minExponent).toNat, by omega⟩
    rw [← hj, Int.toNat_natCast]
    rcases lt_trichotomy q f.maxExponent with hlt | rfl | hgt
    · have hunits : (j + 1) * f.full ≤ last * f.full := Nat.mul_le_mul_right _ (by omega)
      have hmultiple : nearestMultiple num den q ≤ 2 * f.full := by
        apply nearestMultiple_le hden
        exact_mod_cast hbelow
      refine iff_of_true ?_ (Format.lt_limit hbelow hlt)
      nlinarith
    · -- only here the significand decides
      have hround : nearestMultiple num den f.maxExponent < 2 * f.full ↔
          (num : ℚ) / den < (2 * f.full - 1 / 2) * 2 ^ f.maxExponent := by
        exact_mod_cast nearestMultiple_lt_iff hden (Nat.mul_mod_right 2 f.full)
      obtain rfl : j = last := by omega
      rw [Format.limit, ← hround, Nat.add_mul]
      omega
    · have hge := habove (by omega)
      have hunits : (last + 1) * f.full ≤ j * f.full := Nat.mul_le_mul_right _ (by omega)
      have hmultiple := le_nearestMultiple hden hge
      refine iff_of_false ?_ (not_lt.2 (Format.limit_le hge hgt))
      nlinarith

theorem isFinite_ofRatio_iff (hf : 2 ≤ f.exponentBits) (negative : Bool) :
    (ofRatio f negative num den).isFinite = true ↔ (num : ℚ) / den < f.limit := by
  rw [← nearestPosition_lt_magnitudes_iff hden hf, ofRatio, ofPosition]
  split <;> simp_all [isFinite]

end Ratios

/-! ### Decimals -/

theorem limit_lt_ten_zpow : Format.binary64.limit < 10 ^ (400 : ℤ) := by
  calc Format.binary64.limit = 2 ^ 1024 - 2 ^ 970 := Format.limit_binary64
    _ < 2 ^ 1024 := sub_lt_self _ (by positivity)
    _ = 2 ^ (1024 : ℤ) := (zpow_natCast 2 1024).symm
    _ ≤ 2 ^ (1075 : ℤ) := zpow_le_zpow_right₀ one_le_two (by decide)
    _ < 10 ^ (400 : ℤ) := two_zpow_lt_ten_zpow

theorem ten_zpow_lt_limit : (10 : ℚ) ^ (-400 : ℤ) < Format.binary64.limit := by
  calc (10 : ℚ) ^ (-400 : ℤ) ≤ 1 := zpow_le_one_of_nonpos₀ (by norm_num) (by norm_num)
    _ ≤ 2 ^ Format.maxExponent .binary64 := one_le_zpow₀ one_le_two (by decide)
    _ < Format.binary64.limit := Format.two_zpow_lt_limit _

/-- A decimal is rounded to a finite number if and only if it is below the limit. -/
theorem isFinite_ofDecimal_iff (negative : Bool) (n : Nat) (e : ℤ) :
    (ofDecimal .binary64 negative n e).isFinite = true ↔
      (n : ℚ) * 10 ^ e < Format.binary64.limit := by
  rcases Nat.eq_zero_or_pos n with rfl | hn
  · rw [ofDecimal_zero, Nat.cast_zero, zero_mul]
    exact iff_of_true rfl (Format.limit_pos _)
  · obtain ⟨hfirst, hlast⟩ := pow_leading_le hn e
    have hten : (1 : ℚ) ≤ 10 := by norm_num
    by_cases hsmall : (Nat.toDigits 10 n).length + e < -400
    · have hzero : ofDecimal .binary64 negative n e = zero .binary64 negative := by
        simp [ofDecimal, hsmall]
      rw [hzero]
      refine iff_of_true rfl ?_
      calc (n : ℚ) * 10 ^ e < 10 ^ ((Nat.toDigits 10 n).length + e) := hlast
        _ ≤ 10 ^ (-400 : ℤ) := zpow_le_zpow_right₀ hten hsmall.le
        _ < Format.binary64.limit := ten_zpow_lt_limit
    · by_cases hlarge : 400 < (Nat.toDigits 10 n).length + e
      · have hinfinite : ofDecimal .binary64 negative n e = .infinite negative := by
          simp [ofDecimal, hsmall, hlarge, hn.ne']
        rw [hinfinite]
        refine iff_of_false (by simp [isFinite]) (not_lt.2 ?_)
        calc Format.binary64.limit ≤ 10 ^ (400 : ℤ) := limit_lt_ten_zpow.le
          _ ≤ 10 ^ ((Nat.toDigits 10 n).length + e - 1) := zpow_le_zpow_right₀ hten (by omega)
          _ ≤ n * 10 ^ e := hfirst
      · obtain ⟨num, den, hden, hvalue, hratio⟩ :=
          exists_ofDecimal_eq (e := e) hn (by omega) (by omega) .binary64 negative
        rw [hratio, isFinite_ofRatio_iff hden (by decide), hvalue]

end XPathExtension.Binary
