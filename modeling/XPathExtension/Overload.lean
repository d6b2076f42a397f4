import XPathExtension.Function.Description
import XPathExtension.Insertion

/-!
Overloads: functions of one name, told apart by the number of their parameters. Groups stand in the
order in which their names first occur, and the members of a group in the order of their arities.
-/

namespace XPathExtension

/-- The functions of one name. -/
structure OverloadSet where
  name : ExpandedName
  /-- Positions in the list of functions. -/
  members : List Nat
  minArity : Nat
  maxArity : Nat
deriving DecidableEq, Repr

/-- Whether there is a member for every arity in between. -/
def OverloadSet.isContiguous (g : OverloadSet) : Bool :=
  g.members.length == g.maxArity - g.minArity + 1

def OverloadSet.select {α : Type} (g : OverloadSet) (functions : List α) : List α :=
  g.members.filterMap fun i => functions[i]?

/-- Two functions of one name have the same number of parameters. -/
structure RepeatedArity where
  name : ExpandedName
  arity : Nat
deriving DecidableEq, Repr

namespace OverloadSet

/-- The first element that occurs before as well, after the elements `seen`. -/
def firstRepeated? (seen : List Nat) : List Nat → Option Nat
  | [] => none
  | n :: ns => if n ∈ seen then some n else firstRepeated? (n :: seen) ns

def bucket (functions : List Signature) (name : ExpandedName) : List (Signature × Nat) :=
  functions.zipIdx.filter fun f => f.1.name = name

/-- A bucket has the functions of the name with their positions. -/
theorem mem_bucket {functions : List Signature} {name : ExpandedName} {f : Signature} {i : Nat} :
    (f, i) ∈ bucket functions name ↔ functions[i]? = some f ∧ f.name = name := by
  simp [bucket, List.mk_mem_zipIdx_iff_getElem?]

def ofBucket (name : ExpandedName) (fs : List (Signature × Nat)) :
    Except RepeatedArity OverloadSet :=
  match firstRepeated? [] (fs.map (·.1.arity)) with
  | some n => .error ⟨name, n⟩
  | none =>
    let sorted := Insertion.sort (fun a b => decide (a.1.arity ≤ b.1.arity)) fs
    let arities := sorted.map (·.1.arity)
    .ok ⟨name, sorted.map (·.2), arities.headD 0, arities.getLastD 0⟩

def ofSignatures (functions : List Signature) : Except RepeatedArity (List OverloadSet) :=
  (functions.map (·.name)).eraseDups.mapM fun n => ofBucket n (bucket functions n)

end OverloadSet

end XPathExtension
