import XPathExtension.Binary.Rounding

/-!
Sum and square root, each one rounding of the exact result.
-/

namespace XPathExtension.Binary

variable {f : Format}

/-- The significand at an exponent that is not greater, as an integer with sign. -/
private def scaled (negative : Bool) (v : Magnitude) (exponent : Int) : Int :=
  let n : Int := v.significand * Nat.pow 2 (v.exponent - exponent).toNat
  if negative then -n else n

/-- The sum. Opposite infinities have none; an exact zero is negative only if both terms are. -/
def add : Binary f → Binary f → Binary f
  | .nan, _ => .nan
  | _, .nan => .nan
  | .infinite a, .infinite b => if a = b then .infinite a else .nan
  | .infinite a, .finite .. => .infinite a
  | .finite .., .infinite b => .infinite b
  | .finite a j, .finite b k =>
    let u := magnitudeAt f j
    let v := magnitudeAt f k
    let e := min u.exponent v.exponent
    let n := scaled a u e + scaled b v e
    ofMagnitude f (decide (n < 0) || (decide (n = 0) && a && b)) ⟨n.natAbs, e⟩

/-- The integer square root, found bit by bit from bit `bits` down. -/
def squareRoot (n : Nat) : (bits : Nat) → (found : Nat) → Nat
  | 0, r => r
  | b + 1, r =>
    let next := r + Nat.pow 2 b
    squareRoot n b (if next * next ≤ n then next else r)

/-- The square root. The radicand is widened to an even exponent with more than twice the bits of
the format; what the integer root leaves over is kept as one bit below the last. -/
def sqrt : Binary f → Binary f
  | .nan => .nan
  | .infinite negative => if negative then .nan else .infinite false
  | .finite negative k =>
    if k.val = 0 then .finite negative k
    else if negative then .nan
    else
      let v := magnitudeAt f k
      let widening := 2 * f.fractionBits + 8 + (v.exponent % 2).toNat
      let n := v.significand * Nat.pow 2 widening
      let r := squareRoot n (2 * f.fractionBits + 8) 0
      let last := if r * r = n then 0 else 1
      ofMagnitude f false ⟨2 * r + last, (v.exponent - widening) / 2 - 1⟩

end XPathExtension.Binary
