import XPathExtension.Atomic.Type
import XPathExtension.Dependency

/-!
The state of a module that counts, sums and keeps the resources it was given.
-/

namespace XPathExtension.Catalog

/-- A sum, a number of calls, and resources. -/
structure State where
  total : IntegralType.long.Value := ⟨0, by decide⟩
  calls : IntegralType.unsignedLong.Value := ⟨0, by decide⟩
  processor : Option Processor := none
  itemFactory : Option ItemFactory := none
  resolver : Option NodeResolver := none

def sumOf (ns : List Int) : Int := ns.foldl (· + ·) 0

namespace State

variable (s : State)

def counted : State := { s with calls := IntegralType.unsignedLong.wrap (s.calls.val + 1) }

def plus (ns : List Int) : State :=
  { s with total := IntegralType.long.wrap (s.total.val + sumOf ns) }

end State

def injection : ResourceKind → Injection State
  | .processor => .processor fun p s => { s with processor := some p }
  | .itemFactory => .itemFactory fun f s => { s with itemFactory := some f }
  | .resolver => .resolver fun r s => { s with resolver := some r }

end XPathExtension.Catalog
