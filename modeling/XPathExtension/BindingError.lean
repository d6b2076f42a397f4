import XPathExtension.SequenceType.Inference
import XPathExtension.Uri

/-!
Errors of binding: what keeps a module, or a batch of modules, from being bound.
-/

namespace XPathExtension

/-- A place in a signature. -/
inductive Place where
  | result
  | parameter (index : Nat)
deriving DecidableEq, Repr

def Place.text : Place → String
  | result => "return type"
  | parameter i => "parameter " ++ toString (i + 1)

/-- What is wrong with a signature, apart from its types. -/
inductive SignatureFault where
  /-- A method has no instance to work on. -/
  | staticMethod
  /-- A dependency has no instance to set it on. -/
  | staticDependency
  /-- An override is for a parameter that the function does not have. -/
  | noSuchParameter (index arity : Nat)
  /-- A group has a member that is no function of the module. -/
  | unknownMember
  /-- A group has a member whose arity is not in the range of the group. -/
  | outsideRange
deriving DecidableEq, Repr

def SignatureFault.text : SignatureFault → String
  | staticMethod => "methods need a module instance and cannot be bound on a static module"
  | staticDependency => "static modules cannot receive dependencies"
  | noSuchParameter i n =>
    "override for parameter " ++ toString (i + 1) ++ " but the function takes " ++ toString n
  | unknownMember => "overload group refers to an unknown function"
  | outsideRange => "arity outside of the group's range"

/-- Why a module is not bound. -/
inductive BindingFault where
  | ambiguousOverload (function : ExpandedName) (arity : Nat)
  | invalidName (name : String)
  | invalidNamespace (ns : String) (reason : Uri.Fault)
  | signature (function : String) (reason : SignatureFault)
  | typeInference (function : String) (place : Place) (source : InferenceError)
  /-- A batch is refused for what was found on a function; the plan is that of the module. -/
  | compilation (function finding : String) (plan : Option String)
deriving DecidableEq, Repr

/-- A module that is not bound, and why. -/
structure BindingError where
  moduleName : String
  fault : BindingFault
deriving DecidableEq, Repr

def BindingError.message (e : BindingError) : String :=
  let inModule := " in module '" ++ e.moduleName ++ "'"
  match e.fault with
  | .ambiguousOverload f n =>
    "function '" ++ f.text ++ "'" ++ inModule ++ " has more than one overload with " ++
      toString n ++ " parameters; same arity not allowed"
  | .invalidName n => "'" ++ n ++ "'" ++ inModule ++ " is not a valid function name"
  | .invalidNamespace ns reason =>
    "module '" ++ e.moduleName ++ "' declares invalid namespace '" ++ ns ++ "': " ++ reason.text
  | .signature f reason => "function '" ++ f ++ "'" ++ inModule ++ ": " ++ reason.text
  | .typeInference f place source =>
    "function '" ++ f ++ "'" ++ inModule ++ ", " ++ place.text ++ ": " ++ source.message
  | .compilation f finding _ =>
    "binding batch failed for function '" ++ f ++ "'" ++ inModule ++ ": " ++ finding

end XPathExtension
