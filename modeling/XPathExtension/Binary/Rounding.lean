import XPathExtension.Binary.Basic

/-!
Rounding exact values to a binary format: to the nearest number, a tie to the one whose last bit is
zero. All conversions, from decimals, from integers and between formats, are one rounding of the
exact value.
-/

namespace XPathExtension.Binary

/-- `num / den` rounded to the nearest integer, a half to the even one. -/
def nearestEven (num den : Nat) : Nat :=
  let q := num / den
  let r := num % den
  if 2 * r < den then q else if den < 2 * r then q + 1 else q + q % 2

/-- A lower bound of the binary logarithm of `num / den`, exact for positive numbers. -/
def floorLog2 (num den : Nat) : Int :=
  let e : Int := (Nat.log2 num : Int) - Nat.log2 den
  let reaches :=
    if 0 ≤ e then den * Nat.pow 2 e.toNat ≤ num else den ≤ num * Nat.pow 2 (-e).toNat
  if reaches then e else e - 1

/-- The position of the magnitude nearest to `num / den`. -/
def nearestPosition (f : Format) (num den : Nat) : Nat :=
  if num = 0 then 0
  else
    let q := max f.minExponent (floorLog2 num den - f.fractionBits)
    let n := if 0 ≤ q then nearestEven num (den * Nat.pow 2 q.toNat)
      else nearestEven (num * Nat.pow 2 (-q).toNat) den
    (q - f.minExponent).toNat * Nat.pow 2 f.fractionBits + n

/-- The number nearest to `num / den`, with the given sign. -/
def ofRatio (f : Format) (negative : Bool) (num den : Nat) : Binary f :=
  ofPosition f negative (nearestPosition f num den)

/-- The number nearest to `significand * 2 ^ exponent`, with the given sign. -/
def ofMagnitude (f : Format) (negative : Bool) (v : Magnitude) : Binary f :=
  if 0 ≤ v.exponent then ofRatio f negative (v.significand * Nat.pow 2 v.exponent.toNat) 1
  else ofRatio f negative v.significand (Nat.pow 2 (-v.exponent).toNat)

/-- The number nearest to an integer. -/
def ofInt (f : Format) (n : Int) : Binary f := ofRatio f (decide (n < 0)) n.natAbs 1

/-- The number of the format `g` nearest to a number of another format. -/
def convert {f : Format} (g : Format) : Binary f → Binary g
  | .nan => .nan
  | .infinite negative => .infinite negative
  | .finite negative k => ofMagnitude g negative (magnitudeAt f k)

/-- The number nearest to `digits * 10 ^ exponent`. Exponents far outside the format are decided by
the position of the leading digit, so that no huge power is formed. -/
def ofDecimal (f : Format) (negative : Bool) (digits : Nat) (exponent : Int) : Binary f :=
  let leading : Int := (Nat.toDigits 10 digits).length + exponent
  if digits = 0 ∨ leading < -400 then zero f negative
  else if 400 < leading then .infinite negative
  else if 0 ≤ exponent then ofRatio f negative (digits * Nat.pow 10 exponent.toNat) 1
  else ofRatio f negative digits (Nat.pow 10 (-exponent).toNat)

end XPathExtension.Binary
