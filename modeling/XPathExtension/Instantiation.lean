import XPathExtension.Engine

/-!
Instantiations of a batch. Each one has instances of its own, one for every module, and the
functions of a module all work on the one instance of the module. The functions can be called as
they are or registered with an engine.
-/

namespace XPathExtension

/-- Functions that can be called, and the instances that they work on. -/
structure Instantiation (M : Type) where
  functions : List (Extension M)
  instances : List (ModuleInstance M)

/-- A call of the function at a position. -/
structure FunctionCall where
  function : Nat
  ns : Namespaces
  args : List Sequence

namespace CompiledBatch

variable {M : Type} (batch : CompiledBatch M)

/-- The functions in the order of the modules, each with the position of its module. -/
def extensions : List (Extension M) :=
  batch.modules.zipIdx.flatMap fun m => m.1.callables.map fun c => ⟨c, m.2⟩

def instantiate (providers : Providers) : Instantiation M where
  functions := batch.extensions
  instances := batch.modules.map fun m => { source := m, providers := providers }

end CompiledBatch

namespace Instantiation

variable {M : Type} (i : Instantiation M)

/-- Call a function on the instance of its module. There is no answer if there is no function. -/
def call (c : FunctionCall) : Option (Except Error Sequence) × Instantiation M :=
  match i.functions[c.function]? with
  | none => (none, i)
  | some x =>
    match i.instances[x.instanceIndex]? with
    | none => (none, i)
    | some s =>
      let (r, s) := s.run (x.callable.invoke c.ns c.args)
      (some r, { i with instances := i.instances.set x.instanceIndex s })

end Instantiation

namespace Engine

variable {M : Type}

/-- Register the functions of an instantiation one after the other, and say how many they are. -/
def adopt (e : Engine M) (i : Instantiation M) : Engine M × Nat :=
  let base := e.instances.length
  let registration (x : Extension M) : Registration (Extension M) :=
    ⟨x.callable.identity, x.callable.minArity, x.callable.maxArity,
      ⟨x.callable, base + x.instanceIndex⟩⟩
  (⟨i.functions.foldl (fun reg x => reg.register (registration x)) e.registry,
    e.instances ++ i.instances⟩, i.functions.length)

end Engine

end XPathExtension
