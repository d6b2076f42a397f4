import Mathlib.Data.List.Forall2
import Mathlib.Data.List.Induction
import XPathExtension.Callable
import XPathExtension.Instance

/-!
Injection of resources. A fresh instance of a module has its initial state after exactly those
assignments, in the order of declaration, for which there is a resource of the type wanted. This
happens at the first use; what later uses make of the instance is what the functions make of its
state.
-/

namespace XPathExtension

variable {M : Type}

/-- What is assigned from the resources of the host: the one of the type wanted, if it is there. -/
def Injection.assignment? (p : Providers) : Injection M → Option (M → M)
  | processor set => p.processor.map set
  | itemFactory set => p.itemFactory.map set
  | resolver set => p.resolver.map set
  | foreign _ => none

/-- The kind of the resources that are of the type wanted. -/
def Injection.kind? : Injection M → Option ResourceKind
  | processor _ => some .processor
  | itemFactory _ => some .itemFactory
  | resolver _ => some .resolver
  | foreign _ => none

namespace Dependency

variable {d : Dependency M} {ds : List (Dependency M)} {p : Providers} {m m' : M}
  {r : InjectionReport}

/-- There is a resource of the type that the dependency wants. -/
def isMet (p : Providers) (d : Dependency M) : Bool := (d.injection.assignment? p).isSome

/-- Of the resources on offer, a dependency accepts the one of the type that it wants only. -/
theorem firstMatch?_offers (d : Dependency M) (p : Providers) :
    d.firstMatch? p.offers = (d.injection.assignment? p).bind fun assign =>
      d.injection.kind?.map (·, assign) := by
  obtain ⟨processor, itemFactory, resolver⟩ := p
  obtain ⟨property, injection⟩ := d
  cases injection <;> cases processor <;> cases itemFactory <;> cases resolver <;> rfl

theorem assignment?_eq_none (h : d.isMet p = false) : d.injection.assignment? p = none :=
  Option.isNone_iff_eq_none.1 (Option.isSome_eq_false_iff.1 h)

theorem exists_assignment? (h : d.isMet p = true) : ∃ kind assign,
    d.injection.kind? = some kind ∧ d.injection.assignment? p = some assign := by
  obtain ⟨assign, hassign⟩ := Option.isSome_iff_exists.1 h
  cases hi : d.injection with
  | foreign n => simp [hi, Injection.assignment?] at hassign
  | _ => exact ⟨_, assign, rfl, hi ▸ hassign⟩

/-- What becomes of dependencies, of the state and of the report. -/
structure Injects (ds : List (Dependency M)) (p : Providers) (m m' : M) (r : InjectionReport) :
    Prop where
  /-- The dependencies that are met have been assigned, one after the other. -/
  state : m' = (ds.filterMap fun d => d.injection.assignment? p).foldl (fun m set => set m) m
  injected : List.Forall₂ (fun d e => e.1 = d.property ∧ d.injection.kind? = some e.2)
    (ds.filter fun d => d.isMet p) r.injected
  skipped : r.skipped = (ds.filter fun d => !d.isMet p).map (·.property)

theorem Injects.injectOne (h : Injects ds p m m' r) (d : Dependency M) :
    Injects (ds ++ [d]) p m (injectOne p.offers (m', r) d).1 (injectOne p.offers (m', r) d).2 := by
  cases hmet : d.isMet p with
  | true =>
    obtain ⟨kind, assign, hkind, hassign⟩ := exists_assignment? hmet
    have hmatch : d.firstMatch? p.offers = some (kind, assign) := by
      rw [firstMatch?_offers, hkind, hassign]
      rfl
    simp only [Dependency.injectOne, hmatch]
    refine ⟨?_, ?_, ?_⟩
    · rw [List.filterMap_append, List.foldl_append, ← h.state]
      simp [hassign]
    · rw [List.filter_append]
      simpa [hmet] using List.rel_append h.injected (.cons ⟨rfl, hkind⟩ .nil)
    · rw [List.filter_append, List.map_append, ← h.skipped]
      simp [hmet]
  | false =>
    have hassign := assignment?_eq_none hmet
    have hmatch : d.firstMatch? p.offers = none := by
      rw [firstMatch?_offers, hassign]
      rfl
    simp only [Dependency.injectOne, hmatch]
    refine ⟨?_, ?_, ?_⟩
    · rw [List.filterMap_append, List.foldl_append, ← h.state]
      simp [hassign]
    · rw [List.filter_append]
      simpa [hmet] using h.injected
    · rw [List.filter_append, List.map_append, ← h.skipped]
      simp [hmet]

theorem injects_inject (ds : List (Dependency M)) (p : Providers) (m : M) :
    Injects ds p m (inject ds p m).1 (inject ds p m).2 := by
  induction ds using List.reverseRecOn with
  | nil => exact ⟨rfl, .nil, rfl⟩
  | append_singleton ds d ih =>
    have hstep : inject (ds ++ [d]) p m = Dependency.injectOne p.offers (inject ds p m) d := by
      rw [inject, List.foldl_append]
      rfl
    rw [hstep]
    exact ih.injectOne d

end Dependency

namespace ModuleInstance

/-- An instance that has not been used. -/
def fresh (b : Module M) (p : Providers) : ModuleInstance M := { source := b, providers := p }

/-- What is done with an instance: its state is looked at, or a function is called on it. -/
inductive Use (M : Type) where
  | get
  | call (c : Callable M) (ns : Namespaces) (args : List Sequence)

/-- What a use makes of the state. -/
def Use.effect (u : Use M) (m : M) : M :=
  match u with
  | get => m
  | call c ns args => (c.invoke ns args m).2

def Use.effects (us : List (Use M)) (m : M) : M := us.foldl (fun m u => u.effect m) m

/-- What a use makes of the instance. -/
def use (i : ModuleInstance M) : Use M → ModuleInstance M
  | .get => i.get.2
  | .call c ns args => (i.run (c.invoke ns args)).2

def useAll (i : ModuleInstance M) (us : List (Use M)) : ModuleInstance M := us.foldl use i

variable (i : ModuleInstance M)

theorem state?_get : i.get.2.state? = some i.get.1 := by
  unfold get
  split
  case h_1 m h => exact h
  case h_2 => rfl

theorem use_eq (u : Use M) :
    i.use u = { i.get.2 with state? := some (u.effect i.get.1) } := by
  cases u with
  | get => rw [use, Use.effect, ← state?_get]
  | call c ns args => rfl

theorem get_use (u : Use M) : (i.use u).get = (u.effect i.get.1, i.use u) :=
  get_initialized _ _ (by rw [use_eq])

/-- An instance is what its first use has made of it, but for the state that the functions work
on. -/
theorem useAll_cons (u : Use M) (us : List (Use M)) :
    i.useAll (u :: us) = { i.get.2 with state? := some (Use.effects (u :: us) i.get.1) } := by
  rw [useAll, Use.effects, List.foldl_cons, List.foldl_cons]
  induction us generalizing i u with
  | nil => exact i.use_eq u
  | cons v us ih => rw [List.foldl_cons, List.foldl_cons, ih, get_use, use_eq]

theorem get_useAll (us : List (Use M)) : (i.useAll us).get.1 = Use.effects us i.get.1 := by
  cases us with
  | nil => rfl
  | cons u us => rw [get_initialized _ _ (by rw [useAll_cons])]

variable {b : Module M} {p : Providers}

theorem get_fresh_of_static (h : b.isStatic = true) :
    (fresh b p).get.1 = b.initial ∧ (fresh b p).get.2.report? = none := by
  simp [get, fresh, firstState, h]

theorem get_fresh_of_not_static (h : b.isStatic = false) :
    (fresh b p).get.1 = (Dependency.inject b.dependencies p b.initial).1 ∧
      (fresh b p).get.2.report? = some (Dependency.inject b.dependencies p b.initial).2 := by
  simp [get, fresh, firstState, h]

/-- An instance is given its resources once, at its first use, whatever this is: the dependencies
that are met are assigned in their order, and reported, as are the others. Later uses leave the
report as it is, and find the state as the functions called before have left it. Instances of static
modules are given nothing and have no report. -/
theorem use_injects_once (b : Module M) (p : Providers) :
    (b.isStatic = true →
        (fresh b p).get.1 = b.initial ∧ (fresh b p).get.2.report? = none) ∧
      (b.isStatic = false → ∃ r, (fresh b p).get.2.report? = some r ∧
        Dependency.Injects b.dependencies p b.initial (fresh b p).get.1 r) ∧
      (∀ u us, (fresh b p).useAll (u :: us) =
        { (fresh b p).get.2 with state? := some (Use.effects (u :: us) (fresh b p).get.1) }) ∧
      ∀ us, ((fresh b p).useAll us).get.1 = Use.effects us (fresh b p).get.1 := by
  refine ⟨get_fresh_of_static, fun h => ?_, (fresh b p).useAll_cons, (fresh b p).get_useAll⟩
  obtain ⟨hstate, hreport⟩ := get_fresh_of_not_static (p := p) h
  refine ⟨_, hreport, ?_⟩
  rw [hstate]
  exact Dependency.injects_inject b.dependencies p b.initial

/-- A module whose state lists what has been assigned. -/
def listing (isStatic : Bool) : Module (List String) where
  typeName := "Listing"
  initial := []
  name := "listing"
  ns := ModuleDraft.defaultNamespace "listing"
  bindings := .builtin
  isStatic := isStatic
  dependencies := [
    ⟨"engine", .processor fun x m => m ++ [x.name]⟩,
    ⟨"nodes", .itemFactory fun _ m => m ++ ["nodes"]⟩,
    ⟨"log", .foreign "Logger"⟩,
    ⟨"engine", .processor fun x m => m ++ [x.version]⟩]
  functions := []
  groups := []

def offered : Providers := { processor := some ⟨"XPath", "2.0"⟩, resolver := some .empty }

/-- Of three properties one is assigned, twice, and two uses do this once. -/
theorem use_injects_once_listing :
    Dependency.Injects (listing false).dependencies offered [] ["XPath", "2.0"]
        ⟨[("engine", .processor), ("engine", .processor)], ["nodes", "log"]⟩ ∧
      ((fresh (listing false) offered).useAll [.get, .get]).state? = some ["XPath", "2.0"] ∧
      (fresh (listing true) offered).get.1 = [] := by
  obtain ⟨-, hinjected, huses, -⟩ := use_injects_once (listing false) offered
  obtain ⟨r, hr, hinjects⟩ := hinjected rfl
  obtain rfl := Option.some.inj hr
  rw [huses]
  exact ⟨hinjects, rfl, ((use_injects_once (listing true) offered).1 rfl).1⟩

end ModuleInstance

end XPathExtension
