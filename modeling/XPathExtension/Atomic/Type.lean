import XPathExtension.Name

/-!
The built-in atomic types, with the ranges of the integral ones and the look-up by name.
-/

namespace XPathExtension

/-- The integral types. -/
inductive IntegralType where
  | integer | long | int | short | byte
  | unsignedLong | unsignedInt | unsignedShort | unsignedByte
deriving DecidableEq, Repr

namespace IntegralType

def name : IntegralType → String
  | integer => "integer"
  | long => "long"
  | int => "int"
  | short => "short"
  | byte => "byte"
  | unsignedLong => "unsignedLong"
  | unsignedInt => "unsignedInt"
  | unsignedShort => "unsignedShort"
  | unsignedByte => "unsignedByte"

def isUnsigned : IntegralType → Bool
  | unsignedLong | unsignedInt | unsignedShort | unsignedByte => true
  | _ => false

/-- The number of bits of a value; integers have those of a long. -/
def width : IntegralType → Nat
  | integer | long | unsignedLong => 64
  | int | unsignedInt => 32
  | short | unsignedShort => 16
  | byte | unsignedByte => 8

/-- The least value. -/
def least (t : IntegralType) : Int := if t.isUnsigned then 0 else -(Nat.pow 2 (t.width - 1) : Int)

def greatest (t : IntegralType) : Int :=
  if t.isUnsigned then (Nat.pow 2 t.width : Int) - 1 else (Nat.pow 2 (t.width - 1) : Int) - 1

/-- `n` is a value of the type. -/
def InRange (t : IntegralType) (n : Int) : Prop := t.least ≤ n ∧ n ≤ t.greatest

instance (t : IntegralType) (n : Int) : Decidable (t.InRange n) := by
  unfold InRange; infer_instance

def Value (t : IntegralType) : Type := { n : Int // t.InRange n }

instance (t : IntegralType) : DecidableEq t.Value :=
  inferInstanceAs (DecidableEq { n : Int // t.InRange n })

/-- The value of the type that `n` is, if it is one. -/
def ofInt? (t : IntegralType) (n : Int) : Option t.Value :=
  if h : t.InRange n then some ⟨n, h⟩ else none

/-- The value of the type congruent to `n` modulo the number of its values. -/
def wrap (t : IntegralType) (n : Int) : t.Value :=
  let m : Int := Nat.pow 2 t.width
  let r := (n - t.least) % m + t.least
  ⟨r, by
    have hm : 0 < m := by cases t <;> decide
    have h0 := Int.emod_nonneg (n - t.least) (Int.ne_of_gt hm)
    have h1 := Int.emod_lt_of_pos (n - t.least) hm
    have hg : t.greatest = t.least + m - 1 := by cases t <;> rfl
    have hr : r = (n - t.least) % m + t.least := rfl
    exact ⟨by omega, by omega⟩⟩

theorem inRange_long {t : IntegralType} (h : t.isUnsigned = false) {n : Int} (hn : t.InRange n) :
    long.InRange n := by
  have hb : long.least ≤ t.least ∧ t.greatest ≤ long.greatest := by
    revert h; cases t <;> decide
  exact ⟨Int.le_trans hb.1 hn.1, Int.le_trans hn.2 hb.2⟩

theorem inRange_unsignedLong {t : IntegralType} (h : t.isUnsigned = true) {n : Int}
    (hn : t.InRange n) : unsignedLong.InRange n := by
  have hb : unsignedLong.least ≤ t.least ∧ t.greatest ≤ unsignedLong.greatest := by
    revert h; cases t <;> decide
  exact ⟨Int.le_trans hb.1 hn.1, Int.le_trans hn.2 hb.2⟩

example : int.greatest = 2147483647 ∧ unsignedLong.greatest = 18446744073709551615 := by decide
example : (byte.wrap 128).val = -128 := by decide

end IntegralType

/-- The atomic types whose values are texts. -/
inductive TextType where
  | string | untypedAtomic | anyURI
deriving DecidableEq, Repr

def TextType.name : TextType → String
  | string => "string"
  | untypedAtomic => "untypedAtomic"
  | anyURI => "anyURI"

/-- The atomic types. Every value is of one of the types other than `anyAtomic`, which has all. -/
inductive AtomicType where
  | anyAtomic
  | text (kind : TextType)
  | boolean
  | decimal
  | double
  | float
  | integral (kind : IntegralType)
  | qname
  | dateTime
  | date
deriving DecidableEq, Repr

namespace AtomicType

def localName : AtomicType → String
  | anyAtomic => "anyAtomicType"
  | text k => k.name
  | boolean => "boolean"
  | decimal => "decimal"
  | double => "double"
  | float => "float"
  | integral k => k.name
  | qname => "QName"
  | dateTime => "dateTime"
  | date => "date"

/-- The name, in the namespace of the built-in types. -/
def name (t : AtomicType) : ExpandedName := .schema t.localName

def displayName (t : AtomicType) : String := "xs:" ++ t.localName

def all : List AtomicType :=
  [anyAtomic, text .untypedAtomic, text .string, boolean, decimal, integral .integer,
    integral .long, integral .int, integral .short, integral .byte, integral .unsignedLong,
    integral .unsignedInt, integral .unsignedShort, integral .unsignedByte, double, float, qname,
    text .anyURI, dateTime, date]

theorem mem_all (t : AtomicType) : t ∈ all := by
  cases t with
  | text k => cases k <;> decide
  | integral k => cases k <;> decide
  | _ => decide

def ofName? (n : ExpandedName) : Option AtomicType := all.find? fun t => t.name = n

@[simp] theorem ofName?_name (t : AtomicType) : ofName? t.name = some t := by
  cases t with
  | text k => cases k <;> decide
  | integral k => cases k <;> decide
  | _ => decide

/-- Only its own name finds a type. -/
theorem name_of_ofName? {n : ExpandedName} {t : AtomicType} (h : ofName? n = some t) :
    t.name = n := by
  simpa using List.find?_some h

def isIntegral : AtomicType → Bool
  | integral _ => true
  | _ => false

def isUnsigned : AtomicType → Bool
  | integral k => k.isUnsigned
  | _ => false

def isNumeric : AtomicType → Bool
  | integral _ | decimal | double | float => true
  | _ => false

/-- The least and the greatest value of an integral type. -/
def range? : AtomicType → Option (Int × Int)
  | integral k => some (k.least, k.greatest)
  | _ => none

end AtomicType

end XPathExtension
