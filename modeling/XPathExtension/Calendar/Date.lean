/-!
Dates of the proleptic Gregorian calendar, in the years from -262143 to 262142. The year 0 is the
year before the year 1.
-/

namespace XPathExtension

namespace Date

def minYear : Int := -262143

def maxYear : Int := 262142

/-- Every fourth year is a leap year, but of the full centuries only every fourth. -/
def isLeapYear (y : Int) : Bool := y % 4 == 0 && (y % 100 != 0 || y % 400 == 0)

/-- The number of days of a month, none for a month that does not exist. -/
def daysInMonth (y : Int) (m : Nat) : Nat :=
  if m = 2 then (if isLeapYear y then 29 else 28)
  else if m = 4 ∨ m = 6 ∨ m = 9 ∨ m = 11 then 30
  else if 1 ≤ m ∧ m ≤ 12 then 31
  else 0

def Exists (y : Int) (m d : Nat) : Prop :=
  minYear ≤ y ∧ y ≤ maxYear ∧ 1 ≤ d ∧ d ≤ daysInMonth y m

instance (y : Int) (m d : Nat) : Decidable (Exists y m d) := by unfold Exists; infer_instance

end Date

/-- A day. -/
structure Date where
  year : Int
  month : Nat
  day : Nat
  isDay : Date.Exists year month day
deriving DecidableEq

namespace Date

/-- The date with these parts, if it exists. -/
def ofParts? (y : Int) (m d : Nat) : Option Date :=
  if h : Exists y m d then some ⟨y, m, d, h⟩ else none

/-- The day after, unless the day is the last one. -/
def next? (a : Date) : Option Date :=
  (ofParts? a.year a.month (a.day + 1)).or
    ((ofParts? a.year (a.month + 1) 1).or (ofParts? (a.year + 1) 1 1))

def isFirst (a : Date) : Bool := a.year == minYear && a.month == 1 && a.day == 1

def isLast (a : Date) : Bool := a.year == maxYear && a.month == 12 && a.day == 31

theorem ofParts?_parts (a : Date) : ofParts? a.year a.month a.day = some a := by
  simp [ofParts?, a.isDay]

theorem ofParts?_eq_some {y : Int} {m d : Nat} {a : Date} (h : ofParts? y m d = some a) :
    a.year = y ∧ a.month = m ∧ a.day = d := by
  unfold ofParts? at h
  split at h
  · cases h; exact ⟨rfl, rfl, rfl⟩
  · cases h

example : (ofParts? 2023 12 31).bind next? = ofParts? 2024 1 1 := by decide
example : (ofParts? 1900 2 28).bind next? = ofParts? 1900 3 1 := by decide
example : (ofParts? 262142 12 31).bind next? = none := by decide

end Date

end XPathExtension
