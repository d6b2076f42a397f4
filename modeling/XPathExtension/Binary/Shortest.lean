import XPathExtension.Binary.Basic

/-!
The shortest decimal of a finite binary number: the fewest digits that read back as that number, of
those the ones nearest to it, and the larger of two equally near.

A number and the ends of the interval of values that round to it are integers in units of a common
power of ten. Grids of falling powers of ten are tried; on each one the two neighbours of the
number are candidates.
-/

namespace XPathExtension

/-- The decimal `digits * 10 ^ exponent`. -/
structure Decimal where
  digits : Nat
  exponent : Int
deriving DecidableEq, Repr

namespace Binary

/-- A number and the ends of its rounding interval, in units of a power of ten. -/
structure Interval where
  low : Nat
  value : Nat
  high : Nat
  closed : Bool
  exponent : Int
deriving Repr

namespace Interval

def contains (i : Interval) (n : Nat) : Bool :=
  if i.closed then decide (i.low ≤ n) && decide (n ≤ i.high)
  else decide (i.low < n) && decide (n < i.high)

/-- The nearest multiple of `grid` inside the interval, in units of `grid`, if there is one among
the two neighbours of the value. -/
def onGrid? (i : Interval) (grid : Nat) : Option Nat :=
  let d := i.value / grid
  match i.contains (d * grid), i.contains ((d + 1) * grid) with
  | false, false => none
  | true, false => some d
  | false, true => some (d + 1)
  | true, true => some (if 2 * (i.value % grid) < grid then d else d + 1)

/-- Try the grids `10 ^ n`, `10 ^ (n - 1)`, down to the unit, on which the value itself lies. -/
def firstHit (i : Interval) : Nat → Decimal
  | 0 => ⟨i.value, i.exponent⟩
  | n + 1 =>
    match i.onGrid? (Nat.pow 10 (n + 1)) with
    | some d => ⟨d, i.exponent + (n + 1 : Nat)⟩
    | none => i.firstHit n

end Interval

/-- The interval that rounds to the magnitude at position `k`: half a place up, and half a place
down, which is shorter below a power of two. Its ends belong to it when the last bit is zero. -/
def interval (f : Format) (k : Nat) : Interval :=
  let v := magnitudeAt f k
  let full := Nat.pow 2 f.fractionBits
  let below := if k % full = 0 ∧ 1 < k / full then 1 else 2
  let q := v.exponent - 2
  let unit := if 0 ≤ q then Nat.pow 2 q.toNat else Nat.pow 5 (-q).toNat
  { low := (4 * v.significand - below) * unit
    value := 4 * v.significand * unit
    high := (4 * v.significand + 2) * unit
    closed := v.significand % 2 == 0
    exponent := if 0 ≤ q then 0 else q }

/-- The shortest decimal of the magnitude at position `k`. The first grid is the power of ten above
the value, which may be the power that the value stands for. -/
def shortest (f : Format) (k : Nat) : Decimal :=
  if k = 0 then ⟨0, 0⟩
  else
    let i := interval f k
    i.firstHit (Nat.toDigits 10 i.value).length

end Binary

end XPathExtension
