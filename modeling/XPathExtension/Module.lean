import XPathExtension.BindingError
import XPathExtension.Dependency
import XPathExtension.Function.Overrides
import XPathExtension.Name.Lexical
import XPathExtension.Overload

/-!
Modules: the functions that a native type offers to queries, and how a module is made from what is
registered for it.

A draft is what was registered. It becomes a module if its names and its namespace are valid, if
every parameter and every result has a sequence type, and if no two functions have both name and
number of parameters in common; otherwise the first fault found is reported.
-/

namespace XPathExtension

/-- A function as registered. -/
structure FunctionDraft (M : Type) where
  name : String
  native : NativeFunction M
  overrides : Overrides := {}

/-- A module as registered. Its functions work on states `M`. -/
structure ModuleDraft (M : Type) where
  /-- The native type that the module belongs to. -/
  typeName : String
  /-- The state of a fresh instance. -/
  initial : M
  name : String
  ns : Option String := none
  bindings : Namespaces := .builtin
  /-- Functions of a static module work without an instance. -/
  isStatic : Bool := false
  dependencies : List (Dependency M) := []
  functions : List (FunctionDraft M) := []

/-- A module whose functions have been described. -/
structure Module (M : Type) where
  typeName : String
  initial : M
  name : String
  ns : String
  bindings : Namespaces
  isStatic : Bool
  dependencies : List (Dependency M)
  functions : List (DescribedFunction M)
  groups : List OverloadSet

/-- The native types that the functions of a module use, in order. -/
def Module.nativeTypes {M : Type} (m : Module M) : List NativeType :=
  m.functions.flatMap fun f => f.description.nativeTypes

namespace ModuleDraft

variable {M : Type} (m : ModuleDraft M)

def fault {α : Type} (f : BindingFault) : Except BindingError α := .error ⟨m.name, f⟩

/-- The namespace of a module that declares none. -/
def defaultNamespace (name : String) : String := "urn:platynui:ext:" ++ name

/-- The namespace of the functions. A declared one is an absolute reference. -/
def resolveNamespace : Except BindingError String :=
  match m.ns with
  | none => .ok (defaultNamespace m.name)
  | some ns =>
    match Uri.fault? ns with
    | none => .ok ns
    | some reason => m.fault (.invalidNamespace ns reason)

def inferSlot (function : String) (place : Place) (native : NativeType)
    (declared : Option String) : Except BindingError Slot :=
  match SequenceType.infer native declared m.bindings with
  | .ok t => .ok ⟨t, native⟩
  | .error e => m.fault (.typeInference function place e)

/-- The parameter at an index. Without a name of its own it is named for its position. -/
def inferParameter (f : FunctionDraft M) (index : Nat) (t : HostType) :
    Except BindingError Parameter := do
  let slot ← m.inferSlot f.name (.parameter index) t.describe (f.overrides.parameter? index)
  return ⟨(f.overrides.name? index).getD ("arg" ++ toString (index + 1)), slot⟩

/-- The result. Only a function that only acts has an empty one. -/
def inferResult (f : FunctionDraft M) : Except BindingError Slot := do
  let native := f.native.result.describe
  let slot ← m.inferSlot f.name .result native f.overrides.result
  if slot.type = .empty ∧ native.isUnit = false then
    m.fault (.typeInference f.name .result
      (.incompatible (f.overrides.result.getD "empty-sequence()") native.name .emptyResult))
  else .ok slot

/-- The names of modules and functions have no colon. -/
def checkName (name : String) : Except BindingError Unit :=
  if Name.isNCName name.toList then .ok () else m.fault (.invalidName name)

/-- A static module has no instance for methods to work on. -/
def checkMethod (f : FunctionDraft M) : Except BindingError Unit :=
  if m.isStatic && f.native.isMethod then m.fault (.signature f.name .staticMethod) else .ok ()

def checkOverrides (f : FunctionDraft M) : Except BindingError Unit :=
  let arity := f.native.parameters.length
  match f.overrides.greatestIndex? with
  | some i => if arity ≤ i then m.fault (.signature f.name (.noSuchParameter i arity)) else .ok ()
  | none => .ok ()

def describe (ns : String) (f : FunctionDraft M) : Except BindingError (DescribedFunction M) := do
  m.checkName f.name
  m.checkMethod f
  m.checkOverrides f
  let parameters ← f.native.parameters.zipIdx.mapM fun (t, i) => m.inferParameter f i t
  let result ← m.inferResult f
  return ⟨⟨.inNamespace ns f.name, parameters, result, f.overrides.sideEffects, m.name⟩, f.native⟩

/-- A static module has no instance for resources to be given to. -/
def checkDependencies : Except BindingError Unit :=
  match m.dependencies with
  | [] => .ok ()
  | d :: _ => if m.isStatic then m.fault (.signature d.property .staticDependency) else .ok ()

def group (functions : List (DescribedFunction M)) : Except BindingError (List OverloadSet) :=
  match OverloadSet.ofSignatures (functions.map (·.description.signature)) with
  | .ok groups => .ok groups
  | .error e => m.fault (.ambiguousOverload e.name e.arity)

def build : Except BindingError (Module M) := do
  m.checkName m.name
  m.checkDependencies
  let ns ← m.resolveNamespace
  let functions ← m.functions.mapM (m.describe ns)
  let groups ← m.group functions
  return { m with ns := ns, functions := functions, groups := groups }

end ModuleDraft

end XPathExtension
