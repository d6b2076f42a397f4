import XPathExtension.Error
import XPathExtension.Insertion
import XPathExtension.Native.HostName
import XPathExtension.Node

/-!
Dependencies: resources of the host that a module instance is given before its first use. A
dependency names a property and the type it wants; the first resource on offer of that type is
assigned, and a property for which there is none keeps its default.
-/

namespace XPathExtension

/-- The query processor that the functions run in. -/
structure Processor where
  name : String
  version : String

/-- Construction of nodes. -/
structure ItemFactory where
  /-- An element with attributes and text, in a document of its own. -/
  element : QName → List (QName × String) → Option String → Except Error Node

/-- Look-up of documents and collections. -/
structure NodeResolver where
  document : String → Except Error (Option Node)
  collection : Option String → Except Error (List Node)

/-- The factory that builds every element asked for. -/
def ItemFactory.constructing : ItemFactory := ⟨fun n as c => .ok (.construct n as c)⟩

/-- The resolver that knows no document. -/
def NodeResolver.empty : NodeResolver := ⟨fun _ => .ok none, fun _ => .ok []⟩

/-- The resolver of documents known by name. A collection is all of them in the order of their
names, or those whose name starts with a text. -/
def NodeResolver.ofDocuments (documents : List (String × Node)) : NodeResolver where
  document uri := .ok (documents.lookup uri)
  collection start :=
    let sorted := Insertion.sort (fun a b => decide (a.1 ≤ b.1)) documents
    .ok ((sorted.filter fun d => start.all fun s => s.toList.isPrefixOf d.1.toList).map (·.2))

/-- The kinds of resources. -/
inductive ResourceKind where
  | processor | itemFactory | resolver
deriving DecidableEq, Repr

/-- A resource on offer. -/
inductive Resource where
  | processor (value : Processor)
  | itemFactory (value : ItemFactory)
  | resolver (value : NodeResolver)

def Resource.kind : Resource → ResourceKind
  | processor _ => .processor
  | itemFactory _ => .itemFactory
  | resolver _ => .resolver

/-- The resources of the host. -/
structure Providers where
  processor : Option Processor := none
  itemFactory : Option ItemFactory := none
  resolver : Option NodeResolver := none

def Providers.offers (p : Providers) : List Resource :=
  (p.processor.map .processor).toList ++ (p.itemFactory.map .itemFactory).toList ++
    (p.resolver.map .resolver).toList

/-- How a module state `M` takes a resource of the type it wants. -/
inductive Injection (M : Type) where
  | processor (set : Processor → M → M)
  | itemFactory (set : ItemFactory → M → M)
  | resolver (set : NodeResolver → M → M)
  /-- Of a type that is never on offer. -/
  | foreign (typeName : String)

namespace Injection

variable {M : Type}

def typeName : Injection M → String
  | processor _ => HostName.processor
  | itemFactory _ => HostName.itemFactory
  | resolver _ => HostName.resolver
  | foreign n => n

/-- The assignment of a resource, if it is of the type wanted. -/
def accept? : Injection M → Resource → Option (M → M)
  | processor set, .processor p => some (set p)
  | itemFactory set, .itemFactory f => some (set f)
  | resolver set, .resolver r => some (set r)
  | _, _ => none

end Injection

/-- A property of a module state that wants a resource. -/
structure Dependency (M : Type) where
  property : String
  injection : Injection M

/-- What became of the dependencies. -/
structure InjectionReport where
  injected : List (String × ResourceKind) := []
  /-- Properties that kept their default. -/
  skipped : List String := []
deriving DecidableEq, Repr

namespace Dependency

variable {M : Type}

/-- The first offer that is accepted: its kind and its assignment. -/
def firstMatch? (d : Dependency M) (offers : List Resource) : Option (ResourceKind × (M → M)) :=
  offers.findSome? fun r => (d.injection.accept? r).map fun assign => (r.kind, assign)

def injectOne (offers : List Resource) (done : M × InjectionReport) (d : Dependency M) :
    M × InjectionReport :=
  let (m, report) := done
  match d.firstMatch? offers with
  | some (kind, assign) =>
    (assign m, { report with injected := report.injected ++ [(d.property, kind)] })
  | none => (m, { report with skipped := report.skipped ++ [d.property] })

/-- Give all dependencies their resources, in order. -/
def inject (ds : List (Dependency M)) (p : Providers) (m : M) : M × InjectionReport :=
  ds.foldl (injectOne p.offers) (m, {})

end Dependency

end XPathExtension
