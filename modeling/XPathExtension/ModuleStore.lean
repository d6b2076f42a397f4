import XPathExtension.Module

/-!
The store of modules, which keeps each module under the native type it belongs to once it has been
built. A draft that cannot be built is tried again at the next request.
-/

namespace XPathExtension

/-- Modules by the names of their native types. -/
structure ModuleStore (M : Type) where
  modules : List (String × Module M) := []
  /-- How many drafts have been looked at. -/
  described : Nat := 0

namespace ModuleStore

variable {M : Type} (s : ModuleStore M)

def get? (typeName : String) : Option (Module M) := s.modules.lookup typeName

/-- The module of a type, built from its draft if it is not there. -/
def describe (d : ModuleDraft M) : Except BindingError (Module M) × ModuleStore M :=
  match s.get? d.typeName with
  | some m => (.ok m, s)
  | none =>
    match d.build with
    | .error e => (.error e, { s with described := s.described + 1 })
    | .ok m => (.ok m, ⟨s.modules ++ [(d.typeName, m)], s.described + 1⟩)

/-- Take the module of a type out; whether there was one. -/
def remove (typeName : String) : Bool × ModuleStore M :=
  ((s.get? typeName).isSome,
    { s with modules := s.modules.filter fun m => m.1 != typeName })

def clear : ModuleStore M := { s with modules := [] }

theorem describe_of_get? {d : ModuleDraft M} {m : Module M} (h : s.get? d.typeName = some m) :
    s.describe d = (.ok m, s) := by
  simp [describe, h]

@[simp] theorem get?_clear (typeName : String) : s.clear.get? typeName = none := rfl

def size : Nat := s.modules.length

def isEmpty : Bool := s.modules.isEmpty

end ModuleStore

end XPathExtension
