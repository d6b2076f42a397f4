/-!
Decimal digits of natural numbers: reading a run of digits and writing at least so many.
-/

namespace XPathExtension.Text

/-- The value of decimal digits. -/
def digitsValue (cs : List Char) : Nat :=
  cs.foldl (fun n c => 10 * n + (c.toNat - '0'.toNat)) 0

/-- The digits of `n` with zeros in front, at least `width` in all. -/
def padded (width n : Nat) : List Char :=
  let ds := Nat.toDigits 10 n
  List.replicate (width - ds.length) '0' ++ ds

end XPathExtension.Text
