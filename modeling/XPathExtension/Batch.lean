import XPathExtension.Diagnostic
import XPathExtension.Options
import XPathExtension.Plan

/-!
Batches: modules that are compiled together. A batch is accepted as a whole or not at all, so that
no query ever sees a part of its functions.
-/

namespace XPathExtension

/-- A batch that has been accepted. -/
structure CompiledBatch (M : Type) where
  modules : List (Module M)
  /-- The functions with the names of their modules, in the order of the modules. -/
  functions : List (String × ExpandedName)
  /-- The components whose types the functions use. -/
  references : List String
  diagnostics : List Diagnostic

namespace Module

variable {M : Type} (m : Module M)

def identities : List ExpandedName := m.callables.map (·.identity)

def origins : List String :=
  originOf m.typeName :: originOf HostName.treeNode :: m.nativeTypes.map (·.origin)

end Module

namespace Batch

variable {M : Type}

/-- Names that have been provided, with the modules that did. -/
abbrev Provided := List (ExpandedName × String)

/-- Record the names of a module; those provided before are clashes. -/
def claim (moduleName : String) (done : List Diagnostic × Provided) (name : ExpandedName) :
    List Diagnostic × Provided :=
  match done.2.lookup name with
  | some owner => (done.1 ++ [⟨moduleName, name.text, .clash owner⟩], done.2)
  | none => (done.1, done.2 ++ [(name, moduleName)])

/-- What is found on each module and between modules, in order. -/
def diagnosticsFrom (provided : Provided) : List (Module M) → List Diagnostic
  | [] => []
  | m :: ms =>
    let (clashes, provided) := m.identities.foldl (claim m.name) ([], provided)
    m.diagnostics ++ clashes ++ diagnosticsFrom provided ms

variable (batch : List (Module M))

def diagnostics : List Diagnostic := diagnosticsFrom [] batch

/-- The components used, each once, in the order of their names. -/
def references : List String :=
  Insertion.sort (fun a b => decide (a ≤ b))
    (HostName.bindingComponent :: batch.flatMap (·.origins)).eraseDups

/-- The functions, module by module. -/
def functions : List (String × ExpandedName) :=
  batch.flatMap fun m => m.identities.map fun n => (m.name, n)

def isFatal (options : LoadOptions) (d : Diagnostic) : Bool :=
  d.finding.severity == .error || options.failOnWarnings

/-- The plan of the first module of a name. -/
def planOf? (name : String) : Option String :=
  (batch.find? fun m => m.name = name).map (·.plan)

/-- Compile a batch. The first diagnostic that counts fails it. -/
def compile (options : LoadOptions) : Except BindingError (CompiledBatch M) :=
  match (diagnostics batch).find? (isFatal options) with
  | some d =>
    .error ⟨d.moduleName, .compilation d.function d.finding.message (planOf? batch d.moduleName)⟩
  | none => .ok ⟨batch, functions batch, references batch, diagnostics batch⟩

def maxFileName : Nat := 255

/-- Write a file, in place of one of the same name. -/
def writeFile (files : List (String × String)) (name content : String) :
    List (String × String) :=
  files.filter (fun f => f.1 != name) ++ [(name, content)]

/-- The files that a directory for plans holds after compilation, by name. A name that is too long
cannot be written. -/
def planFiles : List (String × String) :=
  let files := batch.foldl (fun files m =>
    let name := m.name ++ ".plan.txt"
    if name.utf8ByteSize ≤ maxFileName then writeFile files name m.plan else files) []
  Insertion.sort (fun a b => decide (a.1 ≤ b.1)) files

end Batch

end XPathExtension
