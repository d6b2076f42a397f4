import XPathExtension.Native.Value

/-!
Native types as the bindings see them: a name, what one value of the type is, whether a value is
always present, and which type wraps which. The name is for messages and for the component that
declares the type.
-/

namespace XPathExtension

/-- What a native value without a wrapper is. -/
inductive ElementShape where
  /-- Nothing, the result of a function that only acts. -/
  | unit
  | atomic (type : AtomicType)
  | node
  | item
deriving DecidableEq, Repr

/-- A native type without a wrapper. Values of a value type are always present. -/
structure ElementType where
  name : String
  shape : ElementShape
  valueType : Bool
deriving DecidableEq, Repr

/-- A native type: one value, any number of them, or at most one. -/
inductive NativeType where
  | single (type : ElementType)
  | array (name : String) (element : NativeType) (valueType : Bool)
  | nullable (name : String) (element : NativeType) (valueType : Bool)
deriving DecidableEq, Repr

/-- What stands before the first double colon. -/
def beforeColons? : List Char → Option (List Char)
  | ':' :: ':' :: _ => some []
  | c :: r => (beforeColons? r).map (c :: ·)
  | [] => none

/-- The component that declares a type: what stands before the first `::` of the name, up to its
type arguments. Names without one are those of the core. -/
def originOf (typeName : String) : String :=
  match beforeColons? (typeName.toList.takeWhile (· ≠ '<')) with
  | none => "core"
  | some cs => String.ofList (cs.dropWhile (· = '&'))

/-- The atomic type of an unwrapped type, if it has one. -/
def ElementType.atomicType? (t : ElementType) : Option AtomicType :=
  match t.shape with
  | .atomic a => some a
  | _ => none

namespace NativeType

def name : NativeType → String
  | single t => t.name
  | array n _ _ => n
  | nullable n _ _ => n

def origin (t : NativeType) : String := originOf t.name

def innermost : NativeType → ElementType
  | single t => t
  | array _ e _ => e.innermost
  | nullable _ e _ => e.innermost

def isUnit : NativeType → Bool
  | single t => t.shape == .unit
  | _ => false

def isArray : NativeType → Bool
  | array .. => true
  | _ => false

def atomicType? : NativeType → Option AtomicType
  | single t => t.atomicType?
  | _ => none

end NativeType

/-- What stands for an absent value of an atomic type, if it has a neutral value. -/
def AtomicType.neutral? : AtomicType → Option NativeValue
  | boolean => some (.bool false)
  | text _ => some (.string "")
  | double | decimal => some (.double (.zero .binary64 false))
  | float => some (.float (.zero .binary32 false))
  | integral k => some (if k.isUnsigned then .uint ⟨0, by decide⟩ else .int ⟨0, by decide⟩)
  | anyAtomic | qname | dateTime | date => none

/-- What stands for an absent value of a native type, if anything can. -/
def NativeType.default? : NativeType → Option NativeValue
  | nullable .. => some .null
  | array .. => some (.sequence [])
  | single t =>
    if !t.valueType then some .null
    else
      match t.shape with
      | .atomic a => a.neutral?
      | _ => none

end XPathExtension
