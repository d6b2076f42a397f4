import XPathExtension.Conversion.Slot
import XPathExtension.Function

/-!
Descriptions: what is known of a function once its signature has been checked.
-/

namespace XPathExtension

/-- A name and a number of parameters, which tell functions apart. -/
structure Signature where
  name : ExpandedName
  arity : Nat
deriving DecidableEq, Repr

/-- A parameter of a function. -/
structure Parameter where
  name : String
  slot : Slot
deriving DecidableEq, Repr

/-- A function with its checked signature. -/
structure FunctionDescription where
  name : ExpandedName
  parameters : List Parameter
  result : Slot
  sideEffects : Bool
  /-- The module that has the function. -/
  moduleName : String
deriving DecidableEq, Repr

namespace FunctionDescription

variable (d : FunctionDescription)

def arity : Nat := d.parameters.length

def signature : Signature := ⟨d.name, d.arity⟩

def nativeTypes : List NativeType := d.parameters.map (·.slot.native) ++ [d.result.native]

/-- The type announced for results. A function that only acts may give an item, but never does. -/
def announced : SequenceType :=
  match d.result.type with
  | .empty => .optionalItem d.result.native.innermost
  | t => t

end FunctionDescription

/-- A described function and the native function to call. -/
structure DescribedFunction (M : Type) where
  description : FunctionDescription
  native : NativeFunction M

end XPathExtension
