import XPathExtension.Batch
import XPathExtension.Instance
import XPathExtension.Registry

/-!
The engine that calls functions: the registry of callables and the instances that they work on. Each
module of a batch gets an instance of its own when the batch is registered, and all its functions
share it.
-/

namespace XPathExtension

/-- A callable and the position of the instance it works on. -/
structure Extension (M : Type) where
  callable : Callable M
  instanceIndex : Nat

/-- Functions that queries can call, and their instances. -/
structure Engine (M : Type) where
  registry : Registry (Extension M) := {}
  instances : List (ModuleInstance M) := []

namespace Engine

variable {M : Type} (e : Engine M)

/-- The registrations of the functions of a module on an instance. -/
def registrations (m : Module M) (index : Nat) : List (Registration (Extension M)) :=
  m.callables.map fun c => ⟨c.identity, c.minArity, c.maxArity, ⟨c, index⟩⟩

def addModule (providers : Providers) (e : Engine M) (m : Module M) : Engine M :=
  ⟨(registrations m e.instances.length).foldl .register e.registry,
    e.instances ++ [{ source := m, providers := providers }]⟩

def register (batch : CompiledBatch M) (providers : Providers) : Engine M :=
  batch.modules.foldl (addModule providers) e

def resolve (name : ExpandedName) (n : Nat) : Except ResolutionError (Extension M) :=
  (e.registry.resolve name n).map (·.entry)

def runAt {α : Type} (index : Nat) (i : ModuleInstance M) (f : M → α × M) : α × Engine M :=
  let (a, i) := i.run f
  (a, { e with instances := e.instances.set index i })

def callExtension (x : Extension M) (ns : Namespaces) (args : List Sequence) :
    Except Error Sequence × Engine M :=
  match e.instances[x.instanceIndex]? with
  | none => (.error (x.callable.noOverload args.length), e)
  | some i => e.runAt x.instanceIndex i (x.callable.invoke ns args)

/-- The first argument that has not as many items as the callable declares. -/
def refuse? (name : ExpandedName) (declared : List SequenceType) (args : List Sequence) :
    Option Error :=
  ((args.zip declared).zipIdx.find? fun a => !a.1.2.acceptsLength a.1.1.length).map fun a =>
    .ofCode .xpty0004
      ("argument " ++ toString (a.2 + 1) ++ " of " ++ name.text ++ ": " ++
        toString a.1.1.length ++ " items do not match " ++ a.1.2.text)

/-- Resolve a name and call the function with as many arguments as were given, or with another
number of them in mind. -/
def call (name : ExpandedName) (ns : Namespaces) (args : List Sequence)
    (arity : Option Nat := none) : Except Error Sequence × Engine M :=
  match e.resolve name (arity.getD args.length) with
  | .error f => (.error f.toError, e)
  | .ok x => e.callExtension x ns args

/-- Call a function after checking the numbers of items against the declared types. -/
def invoke (name : ExpandedName) (ns : Namespaces) (args : List Sequence) :
    Except Error Sequence × Engine M :=
  match e.resolve name args.length with
  | .error f => (.error f.toError, e)
  | .ok x =>
    match refuse? name x.callable.argumentTypes args with
    | some f => (.error f, e)
    | none => e.callExtension x ns args

end Engine

end XPathExtension
