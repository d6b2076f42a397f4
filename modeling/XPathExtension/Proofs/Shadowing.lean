import XPathExtension.Proofs.Resolution
import XPathExtension.Proofs.Warnings

/-!
Shadowed overloads. A name and a number of arguments select a function by the ranges of arities
alone, so that a narrow function with a gap hides the overloads that other functions of its name have
there. A call misses an overload in this way only: where a registered function of the name has one,
the selected function has one as well, or the batch it came with has the warning about its gap.
-/

namespace XPathExtension

variable {M : Type}

/-! ### Loaded batches -/

/-- Build modules and compile them as one batch. -/
def Batch.load (drafts : List (ModuleDraft M)) (options : LoadOptions) :
    Except BindingError (CompiledBatch M) := do
  Batch.compile (← drafts.mapM ModuleDraft.build) options

namespace CompiledBatch

variable {batch : CompiledBatch M} {m : Module M} {c : Callable M}

def IsLoaded (batch : CompiledBatch M) : Prop :=
  ∃ drafts options, Batch.load drafts options = .ok batch

/-- The batch has the warning that a function has no overload for some numbers of arguments, this
one among them. -/
def WarnsOfGap (batch : CompiledBatch M) (moduleName : String) (name : ExpandedName) (n : Nat) :
    Prop :=
  ∃ gaps, ⟨moduleName, name.text, .gap gaps⟩ ∈ batch.diagnostics ∧ n ∈ gaps

theorem IsLoaded.exists_compile (h : batch.IsLoaded) :
    ∃ (drafts : List (ModuleDraft M)) (modules : List (Module M)) (options : LoadOptions),
      List.Forall₂ (fun d b => d.build = .ok b) drafts modules ∧
        Batch.compile modules options = .ok batch := by
  obtain ⟨drafts, options, hload⟩ := h
  obtain ⟨modules, hbuild, hcompile⟩ := Outcome.bind_eq_ok_iff.1 hload
  exact ⟨drafts, modules, options, Outcome.mapM_eq_ok_iff.1 hbuild, hcompile⟩

theorem IsLoaded.exists_presents (h : batch.IsLoaded) (hm : m ∈ batch.modules)
    (hc : c ∈ m.callables) : ∃ d : ModuleDraft M, c.Presents d := by
  obtain ⟨drafts, modules, options, hbuild, hcompile⟩ := h.exists_compile
  rw [(Batch.of_compile hcompile).1] at hm
  obtain ⟨d, -, hd⟩ := Outcome.exists_of_mem_right hbuild hm
  exact ⟨d, ModuleDraft.presents_of_mem (ModuleDraft.builds_of_build hd) hc⟩

/-- Within its range, a function of a loaded batch has an overload for a number of arguments unless
the batch warns of the gap. -/
theorem IsLoaded.warnsOfGap (h : batch.IsLoaded) (hm : m ∈ batch.modules) (hc : c ∈ m.callables)
    {n : Nat} (hmin : c.minArity ≤ n) (hmax : n ≤ c.maxArity) (hnone : c.overload? n = none) :
    batch.WarnsOfGap m.name c.identity n := by
  obtain ⟨d, hpresents⟩ := h.exists_presents hm hc
  have hn : n ∈ c.gaps := by
    rw [Callable.mem_gaps_iff hpresents.minArity_le_maxArity, hpresents.mem_arities_iff, hnone]
    exact ⟨hmin, hmax, by simp⟩
  obtain ⟨drafts, modules, options, -, hcompile⟩ := h.exists_compile
  rw [(Batch.of_compile hcompile).1] at hm
  refine ⟨c.gaps, Batch.mem_diagnostics_of_findings hcompile hm hc ?_, hn⟩
  exact hpresents.gap_mem_findings hn

end CompiledBatch

namespace Engine

/-- The engines that come of the empty one by registering loaded batches, which are these, and by
calls, in any order. -/
inductive Loads : List (CompiledBatch M) → Engine M → Prop
  | empty : Loads [] {}
  | register {batches : List (CompiledBatch M)} {e : Engine M} (h : Loads batches e)
      {batch : CompiledBatch M} (hbatch : batch.IsLoaded) (providers : Providers) :
      Loads (batches ++ [batch]) (e.register batch providers)
  | call {batches : List (CompiledBatch M)} {e : Engine M} (h : Loads batches e)
      (name : ExpandedName) (ns : Namespaces) (args : List Sequence) (arity : Option Nat) :
      Loads batches (e.call name ns args arity).2
  | invoke {batches : List (CompiledBatch M)} {e : Engine M} (h : Loads batches e)
      (name : ExpandedName) (ns : Namespaces) (args : List Sequence) :
      Loads batches (e.invoke name ns args).2

variable {batches : List (CompiledBatch M)} {batch : CompiledBatch M} {e e' : Engine M}
  {m : Module M} {r : Registration (Extension M)} {name : ExpandedName} {n : Nat}

/-- The registration is that of a function of a module of a loaded batch, on an instance of the
module. -/
structure Provides (e : Engine M) (batch : CompiledBatch M) (m : Module M)
    (r : Registration (Extension M)) : Prop where
  loaded : batch.IsLoaded
  provider : m ∈ batch.modules
  callable : r.entry.callable ∈ m.callables
  name : r.name = r.entry.callable.identity
  source : (e.instances.map (·.source))[r.entry.instanceIndex]? = some m

theorem Provides.of_keeps (h : e.Provides batch m r) (hkeeps : e.Keeps e') :
    e'.Provides batch m r :=
  { h with source := by rw [hkeeps.sources]; exact h.source }

theorem Provides.register_old (h : e.Provides batch m r) (batch' : CompiledBatch M)
    (providers : Providers) : (e.register batch' providers).Provides batch m r := by
  refine { h with source := ?_ }
  rw [instances_register, List.map_append, List.getElem?_append_left]
  · exact h.source
  · exact (List.getElem?_eq_some_iff.1 h.source).1

theorem Provides.exists_instance (h : e.Provides batch m r) :
    ∃ i, e.instances[r.entry.instanceIndex]? = some i ∧ i.source = m := by
  have hsource := h.source
  rw [List.getElem?_map] at hsource
  exact Option.map_eq_some_iff.1 hsource

/-- Each module of a registered batch works on the instance that was made for it. -/
theorem provides_register_new (hbatch : batch.IsLoaded) (providers : Providers)
    (hr : r ∈ (batch.modules.zipIdx e.instances.length).flatMap fun m => registrations m.1 m.2) :
    ∃ m, (e.register batch providers).Provides batch m r := by
  obtain ⟨⟨m, k⟩, hm, hr⟩ := List.mem_flatMap.1 hr
  obtain ⟨c, hc, rfl⟩ := List.mem_map.1 hr
  obtain ⟨hle, hmodule⟩ := List.mk_mem_zipIdx_iff_le_and_getElem?_sub.1 hm
  refine ⟨m, hbatch, List.mem_of_getElem? hmodule, hc, rfl, ?_⟩
  rw [instances_register, List.map_append, List.map_map, List.getElem?_append_right (by simpa),
    List.length_map, List.getElem?_map, hmodule]
  rfl

theorem Loads.arises (h : Loads batches e) : Arises e := by
  induction h with
  | empty => exact .empty
  | register _ _ providers ih => exact .register ih _ providers
  | call _ name ns args arity ih => exact .call ih name ns args arity
  | invoke _ name ns args ih => exact .invoke ih name ns args

/-- Every registration is provided by one of the batches. -/
def ProvidedBy (e : Engine M) (batches : List (CompiledBatch M)) : Prop :=
  ∀ r ∈ e.registry.registrations, ∃ batch ∈ batches, ∃ m, e.Provides batch m r

theorem ProvidedBy.register (h : e.ProvidedBy batches) (hbatch : batch.IsLoaded)
    (providers : Providers) : (e.register batch providers).ProvidedBy (batches ++ [batch]) := by
  intro r hr
  rw [registrations_register, List.mem_append] at hr
  rcases hr with hr | hr
  · obtain ⟨batch', hmem, m, hm⟩ := h r hr
    exact ⟨batch', List.mem_append_left _ hmem, m, hm.register_old batch providers⟩
  · obtain ⟨m, hm⟩ := provides_register_new hbatch providers hr
    exact ⟨batch, List.mem_append_right _ List.mem_cons_self, m, hm⟩

theorem ProvidedBy.of_keeps (h : e.ProvidedBy batches) (hkeeps : e.Keeps e') :
    e'.ProvidedBy batches := by
  unfold ProvidedBy
  rw [hkeeps.registry]
  intro r hr
  obtain ⟨batch, hmem, m, hm⟩ := h r hr
  exact ⟨batch, hmem, m, hm.of_keeps hkeeps⟩

theorem Loads.providedBy (h : Loads batches e) : e.ProvidedBy batches := by
  induction h with
  | empty => simp [ProvidedBy]
  | register _ hbatch providers ih => exact ih.register hbatch providers
  | call _ name ns args arity ih => exact ih.of_keeps (keeps_call _ name ns args arity)
  | invoke _ name ns args ih => exact ih.of_keeps (keeps_invoke _ name ns args)

/-! ### Calls -/

theorem call_of_resolve {x : Extension M} {i : ModuleInstance M} {args : List Sequence}
    (hx : e.resolve name args.length = .ok x) (hi : e.instances[x.instanceIndex]? = some i)
    (ns : Namespaces) :
    e.call name ns args = e.runAt x.instanceIndex i (x.callable.invoke ns args) := by
  simp only [call, Option.getD_none, hx, callExtension, hi]

/-- A call with the check of the numbers of items is one without it, unless it is refused. -/
theorem invoke_eq_call_or_refused (e : Engine M) (name : ExpandedName) (ns : Namespaces)
    (args : List Sequence) :
    e.invoke name ns args = e.call name ns args ∨
      ∃ err, err.kind = .xpty0004 ∧ e.invoke name ns args = (.error err, e) := by
  cases hx : e.resolve name args.length with
  | error f => exact .inl (by simp only [invoke, call, Option.getD_none, hx])
  | ok x =>
    cases hrefuse : refuse? name x.callable.argumentTypes args with
    | some err =>
      exact .inr ⟨err, kind_of_refuse? hrefuse, by simp only [invoke, hx, hrefuse]⟩
    | none => exact .inl (by simp only [invoke, call, Option.getD_none, hx, hrefuse])

/-- What becomes of a name and a number of arguments: the function that is selected, the instance it
works on, and what calls do. -/
structure Selects (e : Engine M) (batch : CompiledBatch M) (name : ExpandedName) (n : Nat)
    (r : Registration (Extension M)) (i : ModuleInstance M) : Prop where
  mostSpecific : Registration.IsMostSpecific e.registry.registrations name n r
  resolved : e.resolve name n = .ok r.entry
  provided : e.Provides batch i.source r
  current : e.instances[r.entry.instanceIndex]? = some i
  /-- The overload for the number of arguments is called. -/
  hit : ∀ o, r.entry.callable.overload? n = some o → ∀ ns args, args.length = n →
    e.call name ns args = e.runAt r.entry.instanceIndex i (o.call name ns args)
  /-- Without one, the batch has the warning, and calls fail without running a function. -/
  miss : r.entry.callable.overload? n = none → batch.WarnsOfGap i.source.name name n ∧
    ∀ ns args, args.length = n → ∃ err, err.kind = .xpst0017 ∧
      e.call name ns args = e.runAt r.entry.instanceIndex i fun s => (.error err, s)
  /-- A call may be refused for the number of items of an argument. -/
  checked : ∀ ns args, e.invoke name ns args = e.call name ns args ∨
    ∃ err, err.kind = .xpty0004 ∧ e.invoke name ns args = (.error err, e)

theorem selects_of_isMostSpecific (he : Loads batches e)
    (h : Registration.IsMostSpecific e.registry.registrations name n r) :
    ∃ batch ∈ batches, ∃ i, e.Selects batch name n r i := by
  obtain ⟨batch, hbatch, m, hprovides⟩ := he.providedBy r h.mem
  obtain ⟨i, hi, rfl⟩ := hprovides.exists_instance
  obtain ⟨rfl, hmin, hmax⟩ := h.1
  have hresolve : e.resolve r.name n = .ok r.entry := by
    rw [resolve, Registry.resolve_eq_ok_iff.2 h]
    rfl
  obtain ⟨hlow, hhigh⟩ := he.arises.covers r h.mem
  refine ⟨batch, hbatch, i, h, hresolve, hprovides, hi, ?hit, ?miss,
    e.invoke_eq_call_or_refused r.name⟩
  case hit =>
    rintro o ho ns args rfl
    rw [call_of_resolve hresolve hi, Callable.invoke_of_overload ho, hprovides.name]
  case miss =>
    intro hnone
    constructor
    · rw [hprovides.name]
      exact hprovides.loaded.warnsOfGap hprovides.provider hprovides.callable (hlow ▸ hmin)
        (hhigh ▸ hmax) hnone
    · rintro ns args rfl
      refine ⟨r.entry.callable.noOverload args.length, Error.ofCode_kind _ _, ?_⟩
      rw [call_of_resolve hresolve hi, Callable.invoke_of_noOverload hnone]

/-- Where one of the registered functions of a name has an overload for a number of arguments, the
most specific function is selected, and it has one as well, or the batch it came with has the warning
about its gap. So it has one if no batch has such a warning. -/
theorem selects_of_overload (he : Loads batches e)
    (h : ∃ r ∈ e.registry.registrations,
      r.name = name ∧ ∃ o, r.entry.callable.overload? n = some o) :
    ∃ batch ∈ batches, ∃ r i, e.Selects batch name n r i ∧
      ((∀ b ∈ batches, ∀ moduleName, ¬ b.WarnsOfGap moduleName name n) →
        ∃ o, r.entry.callable.overload? n = some o) := by
  obtain ⟨r, hr, rfl, ho⟩ := h
  obtain ⟨b, -, m, hprovides⟩ := he.providedBy r hr
  obtain ⟨d, hpresents⟩ := hprovides.loaded.exists_presents hprovides.provider hprovides.callable
  obtain ⟨hmin, hmax⟩ := hpresents.range (hpresents.mem_arities_iff.2 ho)
  obtain ⟨hlow, hhigh⟩ := he.arises.covers r hr
  obtain ⟨s, hs⟩ := Registry.exists_resolve_iff.2 ⟨r, hr, rfl, hlow ▸ hmin, hhigh ▸ hmax⟩
  obtain ⟨batch, hbatch, i, hselects⟩ :=
    selects_of_isMostSpecific he (Registry.resolve_eq_ok_iff.1 hs)
  refine ⟨batch, hbatch, s, i, hselects, fun hquiet => Option.ne_none_iff_exists'.1 fun hnone => ?_⟩
  exact hquiet batch hbatch _ (hselects.miss hnone).1

/-- A module with functions of several numbers of arguments under one name. -/
def summing (arities : List Nat) : ModuleDraft Unit where
  typeName := "Sums"
  initial := ()
  name := "sums"
  functions := arities.map fun n => {
    name := "sum"
    native := .ofFunction (List.replicate n (.base .bool)) (.base .bool) fun _ => true }

def sumName : ExpandedName := .inNamespace (ModuleDraft.defaultNamespace "sums") "sum"

/-- An engine with the functions of two batches. -/
def layered (first second : CompiledBatch M) : Engine M :=
  (Engine.register {} first {}).register second {}

theorem loads_layered {first second : CompiledBatch M} (h : first.IsLoaded) (h' : second.IsLoaded) :
    Loads [first, second] (layered first second) :=
  .register (.register .empty h {}) h' {}

/-- What is registered and what is selected under the name for two arguments. -/
def hidesOverload (e : Engine Unit) : Bool :=
  (e.registry.registrations.any fun r =>
      decide (r.name = sumName) && (r.entry.callable.overload? 2).isSome) &&
    (e.resolve sumName 2).toOption.any fun x => (x.callable.overload? 2).isNone

theorem exists_layered : ∃ wide narrow : CompiledBatch Unit,
    Batch.load [summing [0, 1, 2, 3]] {} = .ok wide ∧ Batch.load [summing [1, 3]] {} = .ok narrow ∧
      Loads [wide, narrow] (layered wide narrow) ∧ hidesOverload (layered wide narrow) = true := by
  have hfacts : (Batch.load [summing [0, 1, 2, 3]] {}).toOption.any (fun wide =>
      (Batch.load [summing [1, 3]] {}).toOption.any fun narrow =>
        hidesOverload (layered wide narrow)) = true := by
    decide +kernel
  obtain ⟨wide, hwide, hfacts⟩ := Outcome.any_toOption_iff.1 hfacts
  obtain ⟨narrow, hnarrow, hhides⟩ := Outcome.any_toOption_iff.1 hfacts
  exact ⟨wide, narrow, hwide, hnarrow, loads_layered ⟨_, _, hwide⟩ ⟨_, _, hnarrow⟩, hhides⟩

theorem exists_of_hidesOverload {e : Engine Unit} (h : hidesOverload e = true) :
    (∃ r ∈ e.registry.registrations,
      r.name = sumName ∧ ∃ o, r.entry.callable.overload? 2 = some o) ∧
      ∃ x, e.resolve sumName 2 = .ok x ∧ x.callable.overload? 2 = none := by
  obtain ⟨hregistered, hselected⟩ := Bool.and_eq_true_iff.1 h
  obtain ⟨r, hr, hfacts⟩ := List.any_eq_true.1 hregistered
  obtain ⟨hname, ho⟩ := Bool.and_eq_true_iff.1 hfacts
  obtain ⟨x, hx, hnone⟩ := Outcome.any_toOption_iff.1 hselected
  exact ⟨⟨r, hr, of_decide_eq_true hname, Option.isSome_iff_exists.1 ho⟩, x, hx,
    Option.isNone_iff_eq_none.1 hnone⟩

/-- A wide function has an overload for two arguments, but a narrow one with a gap there is
selected. -/
theorem not_overload_of_gap : ∃ wide narrow : CompiledBatch Unit,
    Batch.load [summing [0, 1, 2, 3]] {} = .ok wide ∧ Batch.load [summing [1, 3]] {} = .ok narrow ∧
      Loads [wide, narrow] (layered wide narrow) ∧
      (∃ r ∈ (layered wide narrow).registry.registrations,
        r.name = sumName ∧ ∃ o, r.entry.callable.overload? 2 = some o) ∧
      ∃ x, (layered wide narrow).resolve sumName 2 = .ok x ∧ x.callable.overload? 2 = none ∧
        ∀ ns args s, args.length = 2 → ∃ err, err.kind = .xpst0017 ∧
          x.callable.invoke ns args s = (.error err, s) := by
  obtain ⟨wide, narrow, hwide, hnarrow, hloads, hhides⟩ := exists_layered
  obtain ⟨hregistered, x, hx, hnone⟩ := exists_of_hidesOverload hhides
  refine ⟨wide, narrow, hwide, hnarrow, hloads, hregistered, x, hx, hnone, ?_⟩
  rintro ns args s hargs
  refine ⟨x.callable.noOverload args.length, Error.ofCode_kind _ _, ?_⟩
  rw [Callable.invoke_of_noOverload (by rw [hargs, hnone])]

theorem selects_of_overload_layered : ∃ (wide narrow : CompiledBatch Unit)
    (r : Registration (Extension Unit)) (i : ModuleInstance Unit),
    Batch.load [summing [0, 1, 2, 3]] {} = .ok wide ∧ Batch.load [summing [1, 3]] {} = .ok narrow ∧
      (layered wide narrow).resolve sumName 2 = .ok r.entry ∧
      ∃ batch ∈ [wide, narrow], batch.WarnsOfGap i.source.name sumName 2 := by
  obtain ⟨wide, narrow, hwide, hnarrow, hloads, hhides⟩ := exists_layered
  obtain ⟨hregistered, x, hx, hnone⟩ := exists_of_hidesOverload hhides
  obtain ⟨batch, hbatch, r, i, hselects, -⟩ := selects_of_overload hloads hregistered
  obtain rfl := Except.ok.inj (hx.symm.trans hselects.resolved)
  exact ⟨wide, narrow, r, i, hwide, hnarrow, hselects.resolved, batch, hbatch,
    (hselects.miss hnone).1⟩

end Engine

end XPathExtension
