import XPathExtension.Module

/-!
Instances of modules. An instance has no state until it is first used; then its module's initial
state is given the resources it depends on, once.
-/

namespace XPathExtension

/-- An instance of a module. -/
structure ModuleInstance (M : Type) where
  source : Module M
  providers : Providers
  /-- The state, once the instance has been used. -/
  state? : Option M := none
  /-- What became of the dependencies. Instances of static modules have none. -/
  report? : Option InjectionReport := none

namespace ModuleInstance

variable {M : Type} (i : ModuleInstance M)

def isInitialized : Bool := i.state?.isSome

def firstState : M × Option InjectionReport :=
  if i.source.isStatic then (i.source.initial, none)
  else
    let (m, report) := Dependency.inject i.source.dependencies i.providers i.source.initial
    (m, some report)

/-- The state, created if the instance has not been used. -/
def get : M × ModuleInstance M :=
  match i.state? with
  | some m => (m, i)
  | none =>
    let (m, report) := i.firstState
    (m, { i with state? := some m, report? := report })

def run {α : Type} (f : M → α × M) : α × ModuleInstance M :=
  let (m, i) := i.get
  let (a, m) := f m
  (a, { i with state? := some m })

theorem get_initialized (m : M) (h : i.state? = some m) : i.get = (m, i) := by
  simp [get, h]

/-- The report is made once. -/
theorem report_run {α : Type} (f : M → α × M) (h : i.isInitialized = true) :
    (i.run f).2.report? = i.report? := by
  obtain ⟨m, hm⟩ := Option.isSome_iff_exists.1 h
  simp [run, get_initialized i m hm]

end ModuleInstance

end XPathExtension
