import XPathExtension.Atomic.Text
import XPathExtension.Error
import XPathExtension.Item

/-!
Native values, the common form in which arguments and results pass between the conversions and the
native functions, with the ways to read one and the faults of reading.

Integers travel as 64-bit words with or without a sign.
-/

namespace XPathExtension

/-- A native value. -/
inductive NativeValue where
  | unit
  | null
  | bool (value : Bool)
  | int (value : IntegralType.long.Value)
  | uint (value : IntegralType.unsignedLong.Value)
  | float (value : Binary32)
  | double (value : Binary64)
  | string (value : String)
  | qname (value : QName)
  | dateTime (value : DateTime)
  | date (value : Date)
  | node (value : Node)
  | item (value : Item)
  | sequence (values : List NativeValue)

/-- Why a native value cannot be read as asked. -/
inductive NativeError where
  /-- The value is of another kind. -/
  | mismatch (expected got : String)
  /-- The integer is no value of the type. -/
  | outOfRange (value : Int) (type : String)
  /-- The text is none of the values of the enumeration. -/
  | unknownVariant (text type : String)
deriving DecidableEq, Repr

/-- The message of an integer that is no value of a type. -/
def outOfRangeText (value : Int) (type : String) : String :=
  "value " ++ toString value ++ " out of range for " ++ type

namespace NativeError

def code : NativeError → ErrorCode
  | mismatch .. => .xpty0004
  | outOfRange .. | unknownVariant .. => .forg0001

def message : NativeError → String
  | mismatch expected got => "expected native " ++ expected ++ ", got " ++ got
  | outOfRange n t => outOfRangeText n t
  | unknownVariant s t => "'" ++ s ++ "' is not a variant of " ++ t

def toError (e : NativeError) : Error := .ofCode e.code e.message

end NativeError

namespace NativeValue

def kindName : NativeValue → String
  | unit => "unit"
  | null => "null"
  | bool _ => "bool"
  | int _ => "signed integer"
  | uint _ => "unsigned integer"
  | float _ => "f32"
  | double _ => "f64"
  | string _ => "string"
  | qname _ => "QName"
  | dateTime _ => "date-time"
  | date _ => "date"
  | node _ => "node"
  | item _ => "item"
  | sequence _ => "sequence"

/-- An integer as a word, without a sign if its type has none. -/
def ofIntegral (t : IntegralType) (n : t.Value) : NativeValue :=
  if h : t.isUnsigned = true then uint ⟨n.val, IntegralType.inRange_unsignedLong h n.property⟩
  else int ⟨n.val, IntegralType.inRange_long (Bool.eq_false_iff.2 h) n.property⟩

/-- The fault of a value that is not of the expected kind. -/
def mismatch (got : NativeValue) (expected : String) : NativeError :=
  .mismatch expected got.kindName

def toText : NativeValue → Except NativeError String
  | string s => .ok s
  | v => .error (v.mismatch "string")

def toInteger : NativeValue → Except NativeError Int
  | int n => .ok n.val
  | uint n => .ok n.val
  | v => .error (v.mismatch "integer")

def toDouble : NativeValue → Except NativeError Binary64
  | double d => .ok d
  | float x => .ok (x.convert .binary64)
  | int n => .ok (.ofInt .binary64 n.val)
  | uint n => .ok (.ofInt .binary64 n.val)
  | v => .error (v.mismatch "floating point number")

@[simp] theorem toInteger_ofIntegral (t : IntegralType) (n : t.Value) :
    (ofIntegral t n).toInteger = .ok n.val := by
  unfold ofIntegral
  split <;> rfl

end NativeValue

end XPathExtension
