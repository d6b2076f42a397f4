import XPathExtension.Binary.Rounding
import XPathExtension.Binary.Shortest
import XPathExtension.Text.Digits

/-!
Decimal texts of binary numbers: reading a numeral, and writing the shortest decimal without an
exponent, or with one for diagnostics.
-/

namespace XPathExtension

open Text (digitsValue)

/-- A decimal numeral as written: an optional sign, digits before and after the point, and a power
of ten. -/
structure Numeral where
  negative : Bool
  whole : List Char
  fraction : List Char
  power : Int

namespace Numeral

def sign : List Char → Bool × List Char
  | '-' :: r => (true, r)
  | '+' :: r => (false, r)
  | cs => (false, cs)

/-- Read the exponent part: nothing, or a mark with an optional sign and at least one digit. -/
def power? : List Char → Option Int
  | [] => some 0
  | c :: r =>
    if c = 'e' ∨ c = 'E' then
      let (negative, ds) := sign r
      if ds ≠ [] ∧ ds.all Char.isDigit then
        some (if negative then -(digitsValue ds : Int) else digitsValue ds)
      else none
    else none

/-- Read a numeral: an optional sign, digits with at most one point among them and at least one
digit, and an optional exponent. -/
def read? (cs : List Char) : Option Numeral :=
  let (negative, r) := sign cs
  let whole := r.takeWhile Char.isDigit
  let r := r.dropWhile Char.isDigit
  let (fraction, r) :=
    match r with
    | '.' :: r => (r.takeWhile Char.isDigit, r.dropWhile Char.isDigit)
    | r => ([], r)
  if whole = [] ∧ fraction = [] then none
  else (power? r).map fun p => ⟨negative, whole, fraction, p⟩

/-- The number of the format `f` nearest to a numeral. -/
def toBinary (f : Binary.Format) (n : Numeral) : Binary f :=
  Binary.ofDecimal f n.negative (digitsValue (n.whole ++ n.fraction))
    (n.power - n.fraction.length)

end Numeral

namespace Decimal

/-- The decimal without an exponent, with at least `places` digits after the point. -/
def positional (d : Decimal) (places : Nat) : List Char :=
  let ds := Nat.toDigits 10 d.digits
  let padded (shown : List Char) := shown ++ List.replicate (places - shown.length) '0'
  let pointed (whole fraction : List Char) :=
    if padded fraction = [] then whole else whole ++ ['.'] ++ padded fraction
  if 0 ≤ d.exponent then pointed (ds ++ List.replicate d.exponent.toNat '0') []
  else
    let n := (-d.exponent).toNat
    if n < ds.length then pointed (ds.take (ds.length - n)) (ds.drop (ds.length - n))
    else pointed ['0'] (List.replicate (n - ds.length) '0' ++ ds)

/-- The decimal with one digit before the point and an exponent. -/
def scientific (d : Decimal) : List Char :=
  let ds := Nat.toDigits 10 d.digits
  let shown := (ds.reverse.dropWhile (· = '0')).reverse
  let e : Int := d.exponent + (ds.length - 1 : Nat)
  shown.take 1 ++ (if shown.length ≤ 1 then [] else '.' :: shown.drop 1) ++ ['e'] ++
    (toString e).toList

end Decimal

namespace Binary

variable {f : Format}

/-- The sign of a negative number; zero keeps its own. -/
def signText (negative : Bool) : List Char := if negative then ['-'] else []

/-- The text of a number: the shortest decimal, never with an exponent; `INF`, `-INF` and `NaN`. -/
def text : Binary f → String
  | .nan => "NaN"
  | .infinite negative => if negative then "-INF" else "INF"
  | .finite negative k => String.ofList (signText negative ++ (shortest f k).positional 0)

/-- The text of a number in diagnostics: always with a point or an exponent. An exponent is used
for magnitudes from `10 ^ 16` on and for those below `10 ^ -4`. -/
def diagnosticText : Binary f → String
  | .nan => "NaN"
  | .infinite negative => if negative then "-inf" else "inf"
  | .finite negative k =>
    let large := nearestPosition f (Nat.pow 10 16) 1
    let small := nearestPosition f 1 (Nat.pow 10 4)
    let d := shortest f k
    String.ofList (signText negative ++
      if k.val ≠ 0 ∧ (k.val < small ∨ large ≤ k.val) then d.scientific else d.positional 1)

/-- Read the text of a number: `INF` with an optional sign plus, `-INF`, `NaN`, or a numeral. -/
def ofText? (f : Format) (cs : List Char) : Option (Binary f) :=
  if cs = "INF".toList ∨ cs = "+INF".toList then some (.infinite false)
  else if cs = "-INF".toList then some (.infinite true)
  else if cs = "NaN".toList then some .nan
  else (Numeral.read? cs).map (·.toBinary f)

end Binary

end XPathExtension
