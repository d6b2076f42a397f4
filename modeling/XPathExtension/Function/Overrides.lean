/-!
Overrides: what the registration of a function says about its signature beyond the native types.
-/

namespace XPathExtension

/-- Declared types and names of a function. The newest entry for a parameter counts. -/
structure Overrides where
  result : Option String := none
  parameters : List (Nat × String) := []
  names : List (Nat × String) := []
  sideEffects : Bool := false
deriving DecidableEq, Repr

namespace Overrides

variable (o : Overrides)

def withParameter (index : Nat) (declared : String) : Overrides :=
  { o with parameters := (index, declared) :: o.parameters }

def withName (index : Nat) (name : String) : Overrides :=
  { o with names := (index, name) :: o.names }

def parameter? (index : Nat) : Option String := o.parameters.lookup index

def name? (index : Nat) : Option String := o.names.lookup index

def greatestIndex? : Option Nat := ((o.parameters ++ o.names).map (·.1)).max?

@[simp] theorem parameter?_withParameter_self (i : Nat) (s : String) :
    (o.withParameter i s).parameter? i = some s := by
  simp [withParameter, parameter?]

theorem parameter?_withParameter_of_ne {i j : Nat} (h : j ≠ i) (s : String) :
    (o.withParameter i s).parameter? j = o.parameter? j := by
  have hj : (j == i) = false := by simpa using h
  simp [withParameter, parameter?, List.lookup_cons, hj]

@[simp] theorem name?_withName_self (i : Nat) (s : String) :
    (o.withName i s).name? i = some s := by
  simp [withName, name?]

theorem name?_withName_of_ne {i j : Nat} (h : j ≠ i) (s : String) :
    (o.withName i s).name? j = o.name? j := by
  have hj : (j == i) = false := by simpa using h
  simp [withName, name?, List.lookup_cons, hj]

end Overrides

end XPathExtension
