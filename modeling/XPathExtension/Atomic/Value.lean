import XPathExtension.Atomic.Type
import XPathExtension.Binary.Basic
import XPathExtension.Calendar.DateTime

/-!
Atomic values: one constructor per primitive value space, with the type of the value where several
types share a space.
-/

namespace XPathExtension

/-- An atomic value. The values of `decimal` are kept as binary numbers, like those of `double`. -/
inductive AtomicValue where
  | text (kind : TextType) (value : String)
  | boolean (value : Bool)
  | decimal (value : Binary64)
  | double (value : Binary64)
  | float (value : Binary32)
  | integral (kind : IntegralType) (value : kind.Value)
  | qname (value : QName)
  | dateTime (value : DateTime)
  | date (value : Date) (zone : Option Offset)
deriving DecidableEq

/-- The most specific type of a value. -/
def AtomicValue.type : AtomicValue → AtomicType
  | text k _ => .text k
  | boolean _ => .boolean
  | decimal _ => .decimal
  | double _ => .double
  | float _ => .float
  | integral k _ => .integral k
  | qname _ => .qname
  | dateTime _ => .dateTime
  | date _ _ => .date

/-- No value has the type that all values belong to. -/
theorem AtomicValue.type_ne_anyAtomic (v : AtomicValue) : v.type ≠ .anyAtomic := by
  cases v <;> simp [AtomicValue.type]

end XPathExtension
