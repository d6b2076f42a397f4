import XPathExtension.Native.HostName
import XPathExtension.Native.Type

/-!
Host types, the types that parameters and results of native functions can have, each with its
values, its description as a native type, and the passage of its values to and from native values.
-/

namespace XPathExtension

/-- The sized integers of the host. -/
inductive HostInteger where
  | i8 | i16 | i32 | i64 | u8 | u16 | u32 | u64
deriving DecidableEq, Repr

namespace HostInteger

def name : HostInteger → String
  | i8 => "i8"
  | i16 => "i16"
  | i32 => "i32"
  | i64 => "i64"
  | u8 => "u8"
  | u16 => "u16"
  | u32 => "u32"
  | u64 => "u64"

/-- The integral type with the same values. -/
def integral : HostInteger → IntegralType
  | i8 => .byte
  | i16 => .short
  | i32 => .int
  | i64 => .long
  | u8 => .unsignedByte
  | u16 => .unsignedShort
  | u32 => .unsignedInt
  | u64 => .unsignedLong

end HostInteger

/-- An enumeration of the host, which travels as the text of its variant. -/
structure Enumeration where
  name : String
  variants : List String
deriving DecidableEq, Repr

/-- The host types without a wrapper. -/
inductive BaseType where
  | bool
  | integer (kind : HostInteger)
  | float
  | double
  | string
  | qname
  | dateTime
  | date
  | node
  | item
  | enumeration (type : Enumeration)
  /-- A text that may be absent by itself. -/
  | reference (name : String)
deriving DecidableEq, Repr

/-- The host types. -/
inductive HostType where
  | base (type : BaseType)
  | list (element : HostType)
  | option (element : HostType)
  /-- The result of a function that only acts. -/
  | unit
deriving DecidableEq, Repr

namespace BaseType

abbrev Value : BaseType → Type
  | bool => Bool
  | integer k => k.integral.Value
  | float => Binary32
  | double => Binary64
  | string => String
  | qname => QName
  | dateTime => DateTime
  | date => Date
  | node => Node
  | item => Item
  | enumeration e => { s : String // s ∈ e.variants }
  | reference _ => Option String

def name : BaseType → String
  | bool => "bool"
  | integer k => k.name
  | float => "f32"
  | double => "f64"
  | string => HostName.string
  | qname => HostName.qname
  | dateTime => HostName.dateTime
  | date => HostName.date
  | node => HostName.node
  | item => HostName.item
  | enumeration e => e.name
  | reference n => n

def shape : BaseType → ElementShape
  | bool => .atomic .boolean
  | integer k => .atomic (.integral k.integral)
  | float => .atomic .float
  | double => .atomic .double
  | string | enumeration _ | reference _ => .atomic (.text .string)
  | qname => .atomic .qname
  | dateTime => .atomic .dateTime
  | date => .atomic .date
  | node => .node
  | item => .item

/-- Values are always present, except those of a reference. -/
def isValueType : BaseType → Bool
  | reference _ => false
  | _ => true

def describe (t : BaseType) : ElementType := ⟨t.name, t.shape, t.isValueType⟩

def fromNative : (t : BaseType) → NativeValue → Except NativeError t.Value
  | bool, .bool b => .ok b
  | bool, v => .error (v.mismatch "bool")
  | integer k, v => do
    let n ← v.toInteger
    match k.integral.ofInt? n with
    | some n => .ok n
    | none => .error (.outOfRange n k.name)
  | float, .float x => .ok x
  | float, v => return (← v.toDouble).convert .binary32
  | double, v => v.toDouble
  | string, .string s => .ok s
  | string, v => .error (v.mismatch "String")
  | qname, .qname q => .ok q
  | qname, v => .error (v.mismatch "QName")
  | dateTime, .dateTime d => .ok d
  | dateTime, v => .error (v.mismatch "DateTime<FixedOffset>")
  | date, .date d => .ok d
  | date, v => .error (v.mismatch "NaiveDate")
  | node, .node n => .ok n
  | node, .item (.node n) => .ok n
  | node, v => .error (v.mismatch "node")
  | item, .item i => .ok i
  | item, .node n => .ok (.node n)
  | item, v => .error (v.mismatch "item")
  | enumeration e, v => do
    let s ← v.toText
    if h : s ∈ e.variants then .ok ⟨s, h⟩ else .error (.unknownVariant s e.name)
  | reference _, .null => .ok none
  | reference _, v => return some (← v.toText)

def toNative : (t : BaseType) → t.Value → NativeValue
  | bool, b => .bool b
  | integer k, n => .ofIntegral k.integral n
  | float, x => .float x
  | double, d => .double d
  | string, s => .string s
  | qname, q => .qname q
  | dateTime, d => .dateTime d
  | date, d => .date d
  | node, n => .node n
  | item, i => .item i
  | enumeration _, s => .string s.val
  | reference _, none => .null
  | reference _, some s => .string s

end BaseType

namespace HostType

@[reducible] def Value : HostType → Type
  | base t => t.Value
  | list t => List t.Value
  | option t => Option t.Value
  | unit => Unit

def name : HostType → String
  | base t => t.name
  | list t => HostName.list t.name
  | option t => HostName.option t.name
  | unit => "()"

def describe : HostType → NativeType
  | base t => .single t.describe
  | list t => .array (name (.list t)) t.describe false
  | option t => .nullable (name (.option t)) t.describe false
  | unit => .single ⟨name .unit, .unit, true⟩

/-- Read a native value as a value of the type. A list also takes one bare value, and an absent one
as no values. -/
def fromNative : (t : HostType) → NativeValue → Except NativeError t.Value
  | base t, v => t.fromNative v
  | list t, v =>
    match v with
    | .sequence vs => vs.mapM t.fromNative
    | .null => .ok []
    | v => return [← t.fromNative v]
  | option t, v =>
    match v with
    | .null => .ok none
    | v => return some (← t.fromNative v)
  | unit, v =>
    match v with
    | .unit => .ok ()
    | v => .error (v.mismatch "unit")

def toNative : (t : HostType) → t.Value → NativeValue
  | base t, x => t.toNative x
  | list t, xs => .sequence (List.map t.toNative xs)
  | option _, none => .null
  | option t, some x => t.toNative x
  | unit, () => .unit

end HostType

end XPathExtension
