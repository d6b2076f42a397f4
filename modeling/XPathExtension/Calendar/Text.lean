import XPathExtension.Calendar.DateTime
import XPathExtension.Text.Digits

/-!
Texts of dates, times and offsets.

Years from 0 to 9999 have four digits; other years have a sign and at least four digits. A fraction
of a second has three, six or nine digits, as few as show it in full.
-/

namespace XPathExtension

open Text (padded)

namespace Date

def yearText (y : Int) : List Char :=
  if 0 ≤ y ∧ y ≤ 9999 then padded 4 y.toNat
  else (if y < 0 then '-' else '+') :: padded 4 y.natAbs

def text (a : Date) : List Char :=
  yearText a.year ++ ['-'] ++ padded 2 a.month ++ ['-'] ++ padded 2 a.day

end Date

namespace TimeOfDay

/-- The fraction of a second with its point, or nothing for a whole second. -/
def fractionText (n : Nat) : List Char :=
  if n = 0 then []
  else if n % 1000000 = 0 then '.' :: padded 3 (n / 1000000)
  else if n % 1000 = 0 then '.' :: padded 6 (n / 1000)
  else '.' :: padded 9 n

def text (t : TimeOfDay) : List Char :=
  let leap := 1000000000 ≤ t.nanosecond
  padded 2 t.hour ++ [':'] ++ padded 2 t.minute ++ [':'] ++
    padded 2 (if leap then t.second + 1 else t.second) ++
    fractionText (if leap then t.nanosecond - 1000000000 else t.nanosecond)

end TimeOfDay

namespace Offset

def signText (o : Offset) : List Char := if o.seconds < 0 then ['-'] else ['+']

/-- Hours and minutes, rounded to the nearest minute. -/
def minuteText (o : Offset) : List Char :=
  let m := (o.seconds.natAbs + 30) / 60
  o.signText ++ padded 2 (m / 60) ++ [':'] ++ padded 2 (m % 60)

/-- Hours and minutes, and seconds if there are any. -/
def text (o : Offset) : List Char :=
  let s := o.seconds.natAbs
  o.signText ++ padded 2 (s / 3600) ++ [':'] ++ padded 2 (s / 60 % 60) ++
    if s % 60 = 0 then [] else ':' :: padded 2 (s % 60)

end Offset

namespace DateTime

def text (d : DateTime) : List Char :=
  d.date.text ++ ['T'] ++ d.time.text ++ d.offset.minuteText

def diagnosticText (d : DateTime) : List Char :=
  d.date.text ++ ['T'] ++ d.time.text ++ d.offset.text

end DateTime

end XPathExtension
