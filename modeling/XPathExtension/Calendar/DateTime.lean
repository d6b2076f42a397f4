import XPathExtension.Calendar.Date

/-!
Times of day, offsets from universal time, and the moments that a local date and time with an offset
names.

A leap second is written as the 59th second with a fraction of one second or more.
-/

namespace XPathExtension

/-- A time of day to the nanosecond. -/
structure TimeOfDay where
  hour : Nat
  minute : Nat
  second : Nat
  nanosecond : Nat
  isTime : hour < 24 ∧ minute < 60 ∧ second < 60 ∧ nanosecond < 2000000000 ∧
    (1000000000 ≤ nanosecond → second = 59)
deriving DecidableEq

namespace TimeOfDay

/-- The time with these parts, if there is one. -/
def ofParts? (h m s n : Nat) : Option TimeOfDay :=
  if p : h < 24 ∧ m < 60 ∧ s < 60 ∧ n < 2000000000 ∧ (1000000000 ≤ n → s = 59) then
    some ⟨h, m, s, n, p⟩
  else none

/-- The time as written, with seconds from 0 to 60; the 60th is a leap second. -/
def ofWritten? (h m s n : Nat) : Option TimeOfDay :=
  if s = 60 then ofParts? h m 59 (n + 1000000000) else ofParts? h m s n

def midnight : TimeOfDay := ⟨0, 0, 0, 0, by decide⟩

def seconds (t : TimeOfDay) : Nat := (t.hour * 60 + t.minute) * 60 + t.second

end TimeOfDay

/-- A difference of local from universal time in seconds, less than a day. -/
structure Offset where
  seconds : Int
  lessThanDay : -86400 < seconds ∧ seconds < 86400
deriving DecidableEq

namespace Offset

def utc : Offset := ⟨0, by decide⟩

def ofSeconds? (s : Int) : Option Offset :=
  if h : -86400 < s ∧ s < 86400 then some ⟨s, h⟩ else none

end Offset

/-- The same moment falls on an existing date in universal time. -/
def DateTime.Reachable (date : Date) (time : TimeOfDay) (offset : Offset) : Prop :=
  ((time.seconds : Int) - offset.seconds < 0 → date.isFirst = false) ∧
    (86400 ≤ (time.seconds : Int) - offset.seconds → date.isLast = false)

instance (d : Date) (t : TimeOfDay) (o : Offset) : Decidable (DateTime.Reachable d t o) := by
  unfold DateTime.Reachable; infer_instance

/-- A moment, as a local date and time with the offset of the clock. -/
structure DateTime where
  date : Date
  time : TimeOfDay
  offset : Offset
  reachable : DateTime.Reachable date time offset
deriving DecidableEq

/-- The moment with a local date, time and offset, if universal time has a date for it. -/
def DateTime.ofLocal? (date : Date) (time : TimeOfDay) (offset : Offset) : Option DateTime :=
  if h : Reachable date time offset then some ⟨date, time, offset, h⟩ else none

end XPathExtension
