import XPathExtension.Native.HostType

/-!
Return types, the types of results with failures in them. A failure may stand for the whole result
or for any part of it, and is not seen in the description of the type. A result without a failure in
it is a value of the host type that has no failures.
-/

namespace XPathExtension

/-- The types that native functions return. -/
inductive ReturnType where
  | base (type : BaseType)
  | list (element : ReturnType)
  | option (element : ReturnType)
  | unit
  /-- A value or a failure; `failure` names the type of failures. -/
  | fallible (value : ReturnType) (failure : String)
deriving DecidableEq, Repr

namespace ReturnType

@[reducible] def Value : ReturnType → Type
  | base t => t.Value
  | list t => List t.Value
  | option t => Option t.Value
  | unit => Unit
  | fallible t _ => Except Error t.Value

def name : ReturnType → String
  | base t => t.name
  | list t => HostName.list t.name
  | option t => HostName.option t.name
  | unit => "()"
  | fallible t failure => HostName.result t.name failure

def describe : ReturnType → NativeType
  | base t => .single t.describe
  | list t => .array (name (.list t)) t.describe false
  | option t => .nullable (name (.option t)) t.describe false
  | unit => .single ⟨name .unit, .unit, true⟩
  | fallible t _ => t.describe

/-- The native value of a value of the type, or the first failure in it. -/
def toNative : (t : ReturnType) → t.Value → Except Error NativeValue
  | base t, x => .ok (t.toNative x)
  | list t, xs => .sequence <$> List.mapM t.toNative xs
  | option _, none => .ok .null
  | option t, some x => t.toNative x
  | unit, () => .ok .unit
  | fallible t _, x => x >>= t.toNative

/-- The type without its failures. -/
def host : ReturnType → HostType
  | base t => .base t
  | list t => .list t.host
  | option t => .option t.host
  | unit => .unit
  | fallible t _ => t.host

/-- The host value of a value of the type, or the first failure in it. -/
def outcome : (t : ReturnType) → t.Value → Except Error t.host.Value
  | base _, x => .ok x
  | list t, xs => List.mapM t.outcome xs
  | option _, none => .ok none
  | option t, some x => some <$> t.outcome x
  | unit, () => .ok ()
  | fallible t _, x => x >>= t.outcome

end ReturnType

end XPathExtension
