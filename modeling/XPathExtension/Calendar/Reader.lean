import XPathExtension.Calendar.DateTime
import XPathExtension.Text.Blank
import XPathExtension.Text.Bytes
import XPathExtension.Text.Digits

/-!
Reading dates and moments.

A moment is read in one of two forms: the strict one, with all digits in place and an offset, and
the loose one, without an offset and taken as universal time, in which a number may have fewer
digits and blanks before it and a year may have a sign. Dates are read in the loose form.
-/

namespace XPathExtension.Calendar

open Text (byteCount digitsValue splitBytes?)

/-- What a reader leaves: a value and the rest of the text. -/
abbrev Reader (α : Type) := List Char → Option (α × List Char)

def char (c : Char) : List Char → Option (List Char)
  | d :: r => if d = c then some r else none
  | [] => none

/-- All digits at the front, at least one. -/
def digits : Reader Nat := fun cs =>
  match cs.takeWhile Char.isDigit with
  | [] => none
  | ds => some (digitsValue ds, cs.dropWhile Char.isDigit)

/-- At most `most` digits, at least one. -/
def fewDigits (most : Nat) : Reader Nat := fun cs =>
  match (cs.takeWhile Char.isDigit).take most with
  | [] => none
  | ds => some (digitsValue ds, cs.drop ds.length)

/-- Exactly `n` digits. -/
def exactDigits (n : Nat) : Reader Nat := fun cs =>
  let ds := cs.take n
  if ds.length = n ∧ ds.all Char.isDigit then some (digitsValue ds, cs.drop n) else none

/-- A number of at most two digits after blanks. -/
def looseNumber : Reader Nat := fun cs => fewDigits 2 (Text.trimLeft cs)

/-- A year after blanks: at most four digits, or a sign and any number of digits. -/
def looseYear : Reader Int := fun cs =>
  match Text.trimLeft cs with
  | '-' :: r => (digits r).map fun (n, r) => (-(n : Int), r)
  | '+' :: r => (digits r).map fun (n, r) => ((n : Int), r)
  | r => (fewDigits 4 r).map fun (n, r) => ((n : Int), r)

/-- A fraction of a second after its point, in nanoseconds; digits past the ninth are dropped. -/
def fraction : Reader Nat
  | '.' :: r =>
    match r.takeWhile Char.isDigit with
    | [] => none
    | ds =>
      let shown := ds.take 9
      some (digitsValue shown * Nat.pow 10 (9 - shown.length), r.dropWhile Char.isDigit)
  | cs => some (0, cs)

def looseDate : Reader Date := fun cs => do
  let (y, r) ← looseYear cs
  let (m, r) ← looseNumber (← char '-' r)
  let (d, r) ← looseNumber (← char '-' r)
  return (← Date.ofParts? y m d, r)

def looseTime : Reader TimeOfDay := fun cs => do
  let (h, r) ← looseNumber cs
  let (m, r) ← looseNumber (← char ':' r)
  let (s, r) ← looseNumber (← char ':' r)
  let (n, r) ← fraction r
  return (← TimeOfDay.ofWritten? h m s n, r)

def strictDate : Reader Date := fun cs => do
  let (y, r) ← exactDigits 4 cs
  let (m, r) ← exactDigits 2 (← char '-' r)
  let (d, r) ← exactDigits 2 (← char '-' r)
  return (← Date.ofParts? y m d, r)

def strictTime : Reader TimeOfDay := fun cs => do
  let (h, r) ← exactDigits 2 cs
  let (m, r) ← exactDigits 2 (← char ':' r)
  let (s, r) ← exactDigits 2 (← char ':' r)
  let (n, r) ← fraction r
  return (← TimeOfDay.ofWritten? h m s n, r)

/-- The sign of an offset; the minus sign proper counts as a hyphen. -/
def offsetSign : Reader Bool
  | '+' :: r => some (false, r)
  | '-' :: r => some (true, r)
  | '−' :: r => some (true, r)
  | _ => none

/-- An offset: `Z`, or a sign, hours below 24 and minutes below 60. -/
def strictOffset : Reader Offset
  | 'Z' :: r => some (Offset.utc, r)
  | 'z' :: r => some (Offset.utc, r)
  | cs => do
    let (negative, r) ← offsetSign cs
    let (h, r) ← exactDigits 2 r
    let (m, r) ← exactDigits 2 (← char ':' r)
    if h < 24 ∧ m < 60 then
      let s : Int := (h * 60 + m) * 60
      return (← Offset.ofSeconds? (if negative then -s else s), r)
    else none

/-- What may stand between a date and a time in the strict form. -/
def strictSeparator : List Char → Option (List Char)
  | 'T' :: r | 't' :: r | ' ' :: r => some r
  | _ => none

/-- Accept a value only at the end of the text. -/
def whole {α : Type} (r : Reader α) (cs : List Char) : Option α :=
  match r cs with
  | some (a, []) => some a
  | _ => none

def strictDateTime : Reader DateTime := fun cs => do
  let (d, r) ← strictDate cs
  let (t, r) ← strictTime (← strictSeparator r)
  let (o, r) ← strictOffset r
  return (← DateTime.ofLocal? d t o, r)

def looseDateTime : Reader DateTime := fun cs => do
  let (d, r) ← looseDate cs
  let (t, r) ← looseTime (← char 'T' r)
  return (← DateTime.ofLocal? d t Offset.utc, r)

def readDateTime? (cs : List Char) : Option DateTime :=
  (whole strictDateTime cs).or (whole looseDateTime cs)

/-- What may follow the ten bytes of a date: nothing, `Z`, or six bytes that start with a sign. -/
def isZoneText (cs : List Char) : Bool :=
  match cs with
  | [] => true
  | ['Z'] => true
  | c :: _ => (c == '+' || c == '-') && byteCount cs == 6

/-- A date in the first ten bytes of a text, with an optional time zone after them. -/
def readDate? (cs : List Char) : Option Date := do
  let (date, zone) ← splitBytes? 10 cs
  if isZoneText zone then whole looseDate date else none

end XPathExtension.Calendar
