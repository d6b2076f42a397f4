import XPathExtension.Conversion.Cast

/-!
Atomic values from native values, and the cast from atomic value to atomic value that goes through
them.
-/

namespace XPathExtension

/-- The atomic value of a given type that a native value carries. -/
def AtomicValue.ofNative (t : AtomicType) (v : NativeValue) : Except NativeError AtomicValue :=
  match t, v with
  | .integral k, v => do
    let n ← v.toInteger
    match k.ofInt? n with
    | some n => .ok (.integral k n)
    | none => .error (.outOfRange n (AtomicType.integral k).displayName)
  | .double, v => .double <$> v.toDouble
  | .decimal, v => .decimal <$> v.toDouble
  | .anyAtomic, .item (.atomic a) => .ok a
  | .boolean, .bool b => .ok (.boolean b)
  | .text k, .string s => .ok (.text k s)
  | .float, .float x => .ok (.float x)
  | .qname, .qname q => .ok (.qname q)
  | .dateTime, .dateTime d => .ok (.dateTime d)
  | .date, .date d => .ok (.date d none)
  | t, v => .error (v.mismatch ("value for " ++ t.displayName))

/-- Why values do not pass between sequences and native values. -/
inductive ConversionError where
  | cast (fault : CastError)
  | native (fault : NativeError)
  /-- Items where there should be none. -/
  | notEmpty
  /-- No items, and nothing stands for their absence. -/
  | absent (type : String)
  | wrongCount (expected : String) (type : String) (count : Nat)
  /-- The node fails the test. -/
  | otherNode (kind : NodeKind) (type : String)
  /-- An atomic value where a node should be. -/
  | notANode (found : AtomicType) (type : String)
  /-- The result of a function that only acts has no items to convert. -/
  | unitItem
  /-- A node with no element in it for an element. -/
  | noElement
deriving DecidableEq

namespace ConversionError

def code : ConversionError → ErrorCode
  | cast e => e.code
  | native e => e.code
  | _ => .xpty0004

def message : ConversionError → String
  | cast e => e.message
  | native e => e.message
  | notEmpty => "expected empty-sequence()"
  | absent t => "empty sequence not allowed for " ++ t
  | wrongCount expected t n => "expected " ++ expected ++ " of type " ++ t ++ ", got " ++ toString n
  | otherNode k t => k.name ++ " node does not match " ++ t
  | notANode a t => "expected " ++ t ++ ", got " ++ a.displayName
  | unitItem => "no item conversion for native Void"
  | noElement => "constructed node contains no element"

def toError (e : ConversionError) : Error := .ofCode e.code e.message

end ConversionError

/-- Cast a value to a type. Every value has the type of all values already. -/
def AtomicValue.cast (v : AtomicValue) (t : AtomicType) (ns : Namespaces) :
    Except ConversionError AtomicValue :=
  if t = .anyAtomic then .ok v
  else do
    let n ← (Cast.toNative v t ns).mapError .cast
    (AtomicValue.ofNative t n).mapError .native

end XPathExtension
