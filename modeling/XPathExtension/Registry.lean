import XPathExtension.Diagnostic
import XPathExtension.Insertion

/-!
The registry of functions. A registration covers a range of arities; of those of one name that
cover an arity the narrowest counts, of equally narrow ones the one that starts first, and then the
one that was registered first.
-/

namespace XPathExtension

/-- Something registered under a name for a range of arities. -/
structure Registration (α : Type) where
  name : ExpandedName
  minArity : Nat
  maxArity : Nat
  entry : α

namespace Registration

variable {α : Type} (r : Registration α)

def covers (n : Nat) : Bool := r.minArity ≤ n && n ≤ r.maxArity

def breadth : Nat := r.maxArity - r.minArity

def arities : List Nat := List.range' r.minArity (r.breadth + 1)

/-- The list of arities has those covered, where the range is one. -/
theorem mem_arities (h : r.minArity ≤ r.maxArity) (n : Nat) :
    n ∈ r.arities ↔ r.covers n = true := by
  simp only [arities, breadth, covers, List.mem_range'_1, Bool.and_eq_true, decide_eq_true_eq]
  omega

/-- Whether `a` is at least as specific as `b`. -/
def le (a b : Registration α) : Bool :=
  a.breadth < b.breadth || (a.breadth == b.breadth && a.minArity ≤ b.minArity)

end Registration

/-- Why a name and a number of arguments stand for no function. -/
inductive ResolutionError where
  | unknown (name : ExpandedName)
  | wrongArity (name : ExpandedName) (available : List Nat)
deriving DecidableEq, Repr

def ResolutionError.message : ResolutionError → String
  | unknown n => "unknown function " ++ n.text
  | wrongArity n available =>
    "function " ++ n.text ++ " is not defined for this arity (available: " ++
      numbersText available ++ ")"

def ResolutionError.toError (e : ResolutionError) : Error := .ofCode .xpst0017 e.message

/-- Registrations in the order in which they were made. -/
structure Registry (α : Type) where
  registrations : List (Registration α) := []

namespace Registry

variable {α : Type} (reg : Registry α)

def register (r : Registration α) : Registry α := ⟨reg.registrations ++ [r]⟩

/-- The registrations of a name, the most specific first. -/
def candidates (name : ExpandedName) : List (Registration α) :=
  Insertion.sort Registration.le (reg.registrations.filter fun r => r.name = name)

@[simp] theorem registrations_register (r : Registration α) :
    (reg.register r).registrations = reg.registrations ++ [r] := rfl

@[simp] theorem mem_candidates {name : ExpandedName} {r : Registration α} :
    r ∈ reg.candidates name ↔ r ∈ reg.registrations ∧ r.name = name := by
  simp [candidates]

/-- The arities that registrations cover, each once and ascending. -/
def availableArities (rs : List (Registration α)) : List Nat :=
  Insertion.sort (fun a b => decide (a ≤ b)) (rs.flatMap (·.arities)).eraseDups

/-- The registration that counts for a name and a number of arguments. -/
def resolve (name : ExpandedName) (n : Nat) : Except ResolutionError (Registration α) :=
  match reg.candidates name with
  | [] => .error (.unknown name)
  | rs =>
    match rs.find? (·.covers n) with
    | some r => .ok r
    | none => .error (.wrongArity name (availableArities rs))

def contains (name : ExpandedName) : Bool := reg.registrations.any fun r => r.name = name

/-- The names, each once and in order. -/
def names : List ExpandedName :=
  Insertion.sort ExpandedName.le (reg.registrations.map (·.name)).eraseDups

def size : Nat := reg.registrations.length

def isEmpty : Bool := reg.registrations.isEmpty

end Registry

end XPathExtension
