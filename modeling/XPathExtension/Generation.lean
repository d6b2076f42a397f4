import XPathExtension.Callable

/-!
Generation of callables. The callable of a group is put together member by member, in the order of
the arities: a member adds its overload to the end of the dispatch table and fills its place in the
table of result types, which starts out empty for the whole range. A group that does not fit the
functions of its module is refused.
-/

namespace XPathExtension

namespace Callable

variable {M : Type} (m : Module M) (g : OverloadSet) (c : Callable M)

/-- The callable of a group before any of its members. -/
def empty : Callable M where
  identity := g.name
  moduleName := m.name
  argumentTypes := []
  resultTypes := List.replicate (g.maxArity - g.minArity + 1) none
  minArity := g.minArity
  maxArity := g.maxArity
  hasSideEffects := false
  dispatch := []

/-- Whether there is a place for an arity in the table of result types. -/
def HasPlace (n : Nat) : Prop := c.minArity ≤ n ∧ n - c.minArity < c.resultTypes.length

instance (n : Nat) : Decidable (c.HasPlace n) := by unfold HasPlace; infer_instance

/-- Take in a function with an arity in the range. The declared types are those of the last one. -/
def withFunction (f : DescribedFunction M) : Callable M :=
  let d := f.description
  { c with
    argumentTypes := d.parameters.map (·.slot.type)
    resultTypes := c.resultTypes.set (d.arity - c.minArity) (some d.announced)
    hasSideEffects := c.hasSideEffects || d.sideEffects
    dispatch := c.dispatch ++ [.ofBound f] }

/-- Take in the member at a position of the functions. -/
def addMember (index : Nat) : Except BindingError (Callable M) :=
  match m.functions[index]? with
  | none => .error ⟨m.name, .signature c.identity.text .unknownMember⟩
  | some f =>
    if c.HasPlace f.description.arity then .ok (c.withFunction f)
    else .error ⟨m.name, .signature c.identity.text .outsideRange⟩

def assemble : Except BindingError (Callable M) := g.members.foldlM (addMember m) (empty m g)

end Callable

/-- The callables of a module, put together group by group. -/
def Module.generate {M : Type} (m : Module M) : Except BindingError (List (Callable M)) :=
  m.groups.mapM (Callable.assemble m)

end XPathExtension
