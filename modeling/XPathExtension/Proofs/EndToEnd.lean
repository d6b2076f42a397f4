import XPathExtension.Proofs.Compiling
import XPathExtension.Proofs.Conformance
import XPathExtension.Proofs.Registering

/-!
Calls by name. Once a batch of built modules has been accepted and registered, a name and a number
of arguments select the one function that was registered under the name with as many parameters, on
the instance of the module that registered it. Where there is none, the call fails and no function
runs.
-/

namespace XPathExtension

variable {M : Type}

def FunctionDraft.arity (f : FunctionDraft M) : Nat := f.native.parameters.length

/-- The draft at position `k` registers, at its position `j`, a function under a name. -/
structure Registers (drafts : List (ModuleDraft M)) (name : ExpandedName) (k j : Nat)
    (d : ModuleDraft M) (f : FunctionDraft M) : Prop where
  draft : drafts[k]? = some d
  function : d.functions[j]? = some f
  name : .inNamespace d.functionNamespace f.name = name

/-- An engine with the functions of an accepted batch, each module on the instance at its own
position. -/
structure Engine.Serves (e : Engine M) (drafts : List (ModuleDraft M))
    (modules : List (Module M)) : Prop where
  builds : List.Forall₂ (fun d b => d.build = .ok b) drafts modules
  registrations : e.registry.registrations =
    modules.zipIdx.flatMap fun m => Engine.registrations m.1 m.2
  sources : e.instances.map (·.source) = modules
  names : (modules.flatMap Module.identities).Nodup

namespace Engine

variable {e : Engine M} {drafts : List (ModuleDraft M)} {modules : List (Module M)}
  {options : LoadOptions} {batch : CompiledBatch M} {providers : Providers}
  {name : ExpandedName} {k j n : Nat} {d : ModuleDraft M} {f : FunctionDraft M}

theorem serves_of_reaches (hbuild : drafts.mapM ModuleDraft.build = .ok modules)
    (hcompile : Batch.compile modules options = .ok batch)
    (he : Reaches (Engine.register {} batch providers) e) : e.Serves drafts modules := by
  obtain ⟨hmodules, hnames⟩ := Batch.of_compile hcompile
  have hkeeps := he.keeps
  refine ⟨Outcome.mapM_eq_ok_iff.1 hbuild, ?_, ?_, hnames⟩
  · rw [hkeeps.registry, registrations_register, hmodules]
    rfl
  · rw [hkeeps.sources, instances_register, hmodules]
    simp [Function.comp_def]

namespace Serves

abbrev registrationOf (c : Callable M) (k : Nat) : Registration (Extension M) :=
  ⟨c.identity, c.minArity, c.maxArity, ⟨c, k⟩⟩

variable (h : e.Serves drafts modules)
include h

theorem mem_registrations_iff {r : Registration (Extension M)} :
    r ∈ e.registry.registrations ↔
      ∃ k b c, modules[k]? = some b ∧ c ∈ b.callables ∧ r = registrationOf c k := by
  rw [h.registrations, List.mem_flatMap]
  constructor
  · rintro ⟨⟨b, k⟩, hb, hr⟩
    obtain ⟨c, hc, rfl⟩ := List.mem_map.1 hr
    exact ⟨k, b, c, List.mem_zipIdx_iff_getElem?.1 hb, hc, rfl⟩
  · rintro ⟨k, b, c, hb, hc, rfl⟩
    exact ⟨(b, k), List.mk_mem_zipIdx_iff_getElem?.2 hb, List.mem_map_of_mem hc⟩

theorem nodup_names : (e.registry.registrations.map (·.name)).Nodup := by
  have hnames : e.registry.registrations.map (·.name) = modules.flatMap Module.identities := by
    rw [h.registrations, List.map_flatMap]
    have hmodule (m : Module M × Nat) :
        (Engine.registrations m.1 m.2).map (·.name) = m.1.identities := by
      simp [Engine.registrations, Module.identities, Function.comp_def]
    simp only [hmodule]
    rw [← List.flatMap_map, List.zipIdx_map_fst]
  rw [hnames]
  exact h.names

theorem exists_callable (hf : Registers drafts name k j d f) :
    ∃ b c g, modules[k]? = some b ∧ d.build = .ok b ∧ c ∈ b.callables ∧ c.identity = name ∧
      b.functions[j]? = some g ∧ d.describe d.functionNamespace f = .ok g ∧
      g.description.name = c.identity := by
  obtain ⟨b, hb, hbuild⟩ := Outcome.exists_of_getElem?_left h.builds hf.draft
  obtain ⟨c, g, hc, hg, hdescribe, hname⟩ :=
    (ModuleDraft.builds_of_build hbuild).exists_callable hf.function
  have hidentity : c.identity = name :=
    hname.symm.trans ((ModuleDraft.describes_of_describe hdescribe).name.trans hf.name)
  exact ⟨b, c, g, hb, hbuild, hc, hidentity, hg, hdescribe, hname⟩

theorem exists_registers {b : Module M} (hb : modules[k]? = some b) {g : DescribedFunction M}
    (hg : g ∈ b.functions) :
    ∃ j d f, Registers drafts g.description.name k j d f ∧ f.arity = g.description.arity := by
  obtain ⟨d, hd, hbuild⟩ := Outcome.exists_of_getElem?_right h.builds hb
  obtain ⟨j, hj⟩ := List.mem_iff_getElem?.1 hg
  obtain ⟨f, hf, hdescribe⟩ := Outcome.exists_of_getElem?_right
    (ModuleDraft.builds_of_build hbuild).functions hj
  have hdescribes := ModuleDraft.describes_of_describe hdescribe
  exact ⟨j, d, f, ⟨hd, hf, hdescribes.name.symm⟩, hdescribes.arity.symm⟩

/-- No two registered functions have both name and arity in common. -/
theorem unique_registers {k' j' : Nat} {d' : ModuleDraft M} {f' : FunctionDraft M}
    (hf : Registers drafts name k j d f) (hf' : Registers drafts name k' j' d' f')
    (ha : f.arity = f'.arity) : k = k' ∧ j = j' := by
  obtain ⟨b, c, g, hb, hbuild, hc, hidentity, hg, hdescribe, hname⟩ := h.exists_callable hf
  obtain ⟨b', c', g', hb', -, hc', hidentity', hg', hdescribe', hname'⟩ := h.exists_callable hf'
  have hregistration : registrationOf c k = registrationOf c' k' := by
    refine List.inj_on_of_nodup_map h.nodup_names (h.mem_registrations_iff.2 ⟨k, b, c, hb, hc, rfl⟩)
      (h.mem_registrations_iff.2 ⟨k', b', c', hb', hc', rfl⟩) ?_
    exact hidentity.trans hidentity'.symm
  have hk : k = k' := congrArg (fun r => r.entry.instanceIndex) hregistration
  subst hk
  obtain rfl := Option.some.inj (hb.symm.trans hb')
  refine ⟨rfl, ?_⟩
  have hsignature : Callable.signatureOf g = Callable.signatureOf g' := by
    have hg := (ModuleDraft.describes_of_describe hdescribe).arity
    have hg' := (ModuleDraft.describes_of_describe hdescribe').arity
    have harity : g.description.arity = g'.description.arity := hg.trans (ha.trans hg'.symm)
    have hnames : g.description.name = g'.description.name := by
      rw [hname, hname', hidentity, hidentity']
    simp [FunctionDescription.signature, harity, hnames]
  have hnodup := OverloadSet.nodup_of_ofSignatures
    (ModuleDraft.builds_of_build hbuild).isGrouped
  have hj : (b.functions.map Callable.signatureOf)[j]? = some (Callable.signatureOf g) := by
    rw [List.getElem?_map, hg]
    rfl
  have hj' : (b.functions.map Callable.signatureOf)[j']? = some (Callable.signatureOf g) := by
    rw [List.getElem?_map, hg', hsignature]
    rfl
  obtain ⟨hlt, -⟩ := List.getElem?_eq_some_iff.1 hj
  exact (List.getElem?_inj hlt hnodup).1 (hj.trans hj'.symm)

theorem exists_instance {b : Module M} (hb : modules[k]? = some b) :
    ∃ i, e.instances[k]? = some i ∧ i.source = b := by
  have hsource : (e.instances.map (·.source))[k]? = some b := by
    rw [h.sources]
    exact hb
  rw [List.getElem?_map] at hsource
  exact Option.map_eq_some_iff.1 hsource

theorem resolve_eq_ok_iff {b : Module M} {c : Callable M} (hb : modules[k]? = some b)
    (hc : c ∈ b.callables) {x : Extension M} :
    e.resolve c.identity n = .ok x ↔ c.minArity ≤ n ∧ n ≤ c.maxArity ∧ x = ⟨c, k⟩ := by
  have hr : registrationOf c k ∈ e.registry.registrations :=
    h.mem_registrations_iff.2 ⟨k, b, c, hb, hc, rfl⟩
  have hcovers : (registrationOf c k).covers n = true ↔ c.minArity ≤ n ∧ n ≤ c.maxArity := by
    simp [Registration.covers]
  unfold resolve
  cases hn : (registrationOf c k).covers n with
  | true =>
    have hresolve := Registry.resolve_of_covers h.nodup_names hr hn
    rw [hcovers] at hn
    change e.registry.resolve c.identity n = _ at hresolve
    rw [hresolve]
    simp [Except.map, hn, eq_comm]
  | false =>
    have hresolve := Registry.resolve_of_not_covers h.nodup_names hr hn
    change e.registry.resolve c.identity n = _ at hresolve
    rw [hresolve]
    have hout : ¬ (c.minArity ≤ n ∧ n ≤ c.maxArity) := by
      rw [← hcovers, hn]
      exact Bool.false_ne_true
    simp only [Except.map, false_iff, reduceCtorEq]
    exact fun hin => hout ⟨hin.1, hin.2.1⟩

theorem exists_of_resolve {x : Extension M} (hx : e.resolve name n = .ok x) :
    ∃ b, modules[x.instanceIndex]? = some b ∧ x.callable ∈ b.callables ∧
      x.callable.identity = name := by
  by_cases hname : ∃ r ∈ e.registry.registrations, r.name = name
  · obtain ⟨r, hr, rfl⟩ := hname
    obtain ⟨k, b, c, hb, hc, rfl⟩ := h.mem_registrations_iff.1 hr
    obtain ⟨-, -, rfl⟩ := (h.resolve_eq_ok_iff hb hc).1 hx
    exact ⟨b, hb, hc, rfl⟩
  · have hunknown : ∀ r ∈ e.registry.registrations, r.name ≠ name :=
      fun r hr heq => hname ⟨r, hr, heq⟩
    rw [resolve, Registry.resolve_of_unknown hunknown] at hx
    cases hx

end Serves

theorem kind_of_refuse? {declared : List SequenceType} {args : List Sequence} {err : Error}
    (h : refuse? name declared args = some err) : err.kind = .xpty0004 := by
  unfold refuse? at h
  obtain ⟨a, -, rfl⟩ := Option.map_eq_some_iff.1 h
  exact Error.ofCode_kind _ _

namespace Serves

variable (h : e.Serves drafts modules) (ns : Namespaces) (args : List Sequence)
include h

/-- A function with as many parameters as there are arguments is called on the instance of its
module, unless the call is refused. -/
theorem invoke_of_registers (hf : Registers drafts name k j d f) (ha : f.arity = args.length) :
    ∃ g i, d.describe d.functionNamespace f = .ok g ∧ g.native = f.native ∧
      e.instances[k]? = some i ∧ d.build = .ok i.source ∧
      ((∃ err, err.kind = .xpty0004 ∧ e.invoke name ns args = (.error err, e)) ∨
        e.invoke name ns args = e.runAt k i ((Overload.ofBound g).call name ns args)) := by
  obtain ⟨b, c, g, hb, hb', hc, rfl, hg, hdescribe, hname⟩ := h.exists_callable hf
  have hgrouped := (ModuleDraft.builds_of_build hb').isGrouped
  have hdescribes := ModuleDraft.describes_of_describe hdescribe
  have harity : g.description.arity = args.length := hdescribes.arity.trans ha
  obtain ⟨i, hi, rfl⟩ := h.exists_instance hb
  refine ⟨g, i, hdescribe, hdescribes.native, hi, hb', ?_⟩
  have hrange := Module.range_of_mem hgrouped hc (List.mem_of_getElem? hg) hname
  rw [harity] at hrange
  have hresolve := (h.resolve_eq_ok_iff hb hc).2 ⟨hrange.1, hrange.2, rfl⟩
  have hoverload : c.overload? args.length = some (.ofBound g) :=
    (Module.overload?_eq_some_iff hgrouped hc).2
      ⟨g, List.mem_of_getElem? hg, hname, harity, rfl⟩
  simp only [invoke, hresolve]
  cases hrefuse : refuse? c.identity c.argumentTypes args with
  | some err => exact .inl ⟨err, kind_of_refuse? hrefuse, rfl⟩
  | none =>
    refine .inr ?_
    simp only [callExtension, hi, Callable.invoke_of_overload hoverload]

theorem exists_registers_of_resolve {x : Extension M} (hx : e.resolve name n = .ok x) :
    (∃ k j d f, Registers drafts name k j d f ∧ f.arity ≤ n) ∧
      ∃ k j d f, Registers drafts name k j d f ∧ n ≤ f.arity := by
  obtain ⟨b, hb, hc, rfl⟩ := h.exists_of_resolve hx
  obtain ⟨hmin, hmax, -⟩ := (h.resolve_eq_ok_iff hb hc).1 hx
  obtain ⟨d, -, hbuild⟩ := Outcome.exists_of_getElem?_right h.builds hb
  have hgrouped := (ModuleDraft.builds_of_build hbuild).isGrouped
  obtain ⟨⟨g, hg, hname, hgmin⟩, g', hg', hname', hgmax⟩ := Module.ends_of_mem hgrouped hc
  obtain ⟨j, d, f, hf, hfmin⟩ := h.exists_registers hb hg
  obtain ⟨j', d', f', hf', hfmax⟩ := h.exists_registers hb hg'
  refine ⟨⟨_, j, d, f, hname ▸ hf, ?_⟩, _, j', d', f', hname' ▸ hf', ?_⟩
  · omega
  · omega

/-- Without a function with as many parameters as there are arguments, a call fails without a trace
but for the first state of an instance. -/
theorem invoke_of_not_registers
    (hnone : ∀ k j d f, Registers drafts name k j d f → f.arity ≠ args.length) :
    ∃ err, (err.kind = .xpst0017 ∨ err.kind = .xpty0004) ∧
      (e.invoke name ns args = (.error err, e) ∨ ∃ k i, e.instances[k]? = some i ∧
        e.invoke name ns args = e.runAt k i fun s => (.error err, s)) ∧
      ((∀ k j d f, Registers drafts name k j d f → args.length < f.arity) ∨
        (∀ k j d f, Registers drafts name k j d f → f.arity < args.length) →
        err.kind = .xpst0017 ∧ e.invoke name ns args = (.error err, e)) := by
  cases hx : e.resolve name args.length with
  | error f =>
    have hkind : f.toError.kind = .xpst0017 := Error.ofCode_kind _ _
    have hinvoke : e.invoke name ns args = (.error f.toError, e) := by simp only [invoke, hx]
    exact ⟨f.toError, .inl hkind, .inl hinvoke, fun _ => ⟨hkind, hinvoke⟩⟩
  | ok x =>
    have hends := h.exists_registers_of_resolve hx
    have hin : ¬ ((∀ k j d f, Registers drafts name k j d f → args.length < f.arity) ∨
        ∀ k j d f, Registers drafts name k j d f → f.arity < args.length) := by
      obtain ⟨⟨k, j, d, f, hf, hle⟩, k', j', d', f', hf', hge⟩ := hends
      rintro (hall | hall)
      · have := hall k j d f hf
        omega
      · have := hall k' j' d' f' hf'
        omega
    cases hrefuse : refuse? name x.callable.argumentTypes args with
    | some err =>
      refine ⟨err, .inr (kind_of_refuse? hrefuse), .inl ?_, fun hout => absurd hout hin⟩
      simp only [invoke, hx, hrefuse]
    | none =>
      obtain ⟨b, hb, hc, rfl⟩ := h.exists_of_resolve hx
      obtain ⟨i, hi, rfl⟩ := h.exists_instance hb
      refine ⟨x.callable.noOverload args.length, .inl (Error.ofCode_kind _ _),
        .inr ⟨x.instanceIndex, i, hi, ?_⟩, fun hout => absurd hout hin⟩
      have hoverload : x.callable.overload? args.length = none := by
        cases ho : x.callable.overload? args.length with
        | none => rfl
        | some o =>
          obtain ⟨d, -, hbuild⟩ := Outcome.exists_of_getElem?_right h.builds hb
          obtain ⟨g, hg, hname, harity, -⟩ := (Module.overload?_eq_some_iff
            (ModuleDraft.builds_of_build hbuild).isGrouped hc).1 ho
          obtain ⟨j, d, f, hf, hfarity⟩ := h.exists_registers hb hg
          exact absurd (hfarity.trans harity) (hnone _ j d f (hname ▸ hf))
      simp only [invoke, hx, hrefuse, callExtension, hi, Callable.invoke_of_noOverload hoverload]

end Serves

/-- What becomes of a call of a registered batch: the function that was registered under the name
with as many parameters as there are arguments is the only one, and it is called on the instance of
its module, unless the call is refused for a number of items. Without such a function the call
fails, and all that may happen is that an instance gets its first state. -/
theorem dispatch_of_invoke (hbuild : drafts.mapM ModuleDraft.build = .ok modules)
    (hcompile : Batch.compile modules options = .ok batch)
    (he : Reaches (Engine.register {} batch providers) e) (name : ExpandedName)
    (ns : Namespaces) (args : List Sequence) :
    (∀ k j d f k' j' d' f', Registers drafts name k j d f → Registers drafts name k' j' d' f' →
      f.arity = args.length → f'.arity = args.length → k = k' ∧ j = j') ∧
    (∀ k j d f, Registers drafts name k j d f → f.arity = args.length →
      ∃ g i, d.describe d.functionNamespace f = .ok g ∧ g.native = f.native ∧
        e.instances[k]? = some i ∧ d.build = .ok i.source ∧
        ((∃ err, err.kind = .xpty0004 ∧ e.invoke name ns args = (.error err, e)) ∨
          e.invoke name ns args = e.runAt k i ((Overload.ofBound g).call name ns args))) ∧
    ((∀ k j d f, Registers drafts name k j d f → f.arity ≠ args.length) →
      ∃ err, (err.kind = .xpst0017 ∨ err.kind = .xpty0004) ∧
        (e.invoke name ns args = (.error err, e) ∨ ∃ k i, e.instances[k]? = some i ∧
          e.invoke name ns args = e.runAt k i fun s => (.error err, s)) ∧
        ((∀ k j d f, Registers drafts name k j d f → args.length < f.arity) ∨
          (∀ k j d f, Registers drafts name k j d f → f.arity < args.length) →
          err.kind = .xpst0017 ∧ e.invoke name ns args = (.error err, e))) := by
  have h := serves_of_reaches hbuild hcompile he
  refine ⟨?_, ?_, ?_⟩
  · intro k j d f k' j' d' f' hf hf' ha ha'
    exact h.unique_registers hf hf' (ha.trans ha'.symm)
  · intro k j d f hf ha
    exact h.invoke_of_registers ns args hf ha
  · exact h.invoke_of_not_registers ns args

/-- A module with functions of one and of three arguments under one name. -/
def gapped : ModuleDraft Unit where
  typeName := "Sums"
  initial := ()
  name := "sums"
  functions := [1, 3].map fun n => {
    name := "sum"
    native := .ofFunction (List.replicate n (.base .bool)) (.base .bool) fun _ => true }

theorem dispatch_of_invoke_gapped :
    ∃ modules batch err, [gapped, ModuleDraft.absence none].mapM ModuleDraft.build = .ok modules ∧
      Batch.compile modules {} = .ok batch ∧ (err.kind = .xpst0017 ∨ err.kind = .xpty0004) ∧
      ((Engine.register {} batch {}).invoke
        (.inNamespace (ModuleDraft.defaultNamespace "sums") "sum") .empty [[], []]).1 =
          .error err := by
  have hcompile : ([gapped, ModuleDraft.absence none].mapM ModuleDraft.build).toOption.any
      (fun modules => (Batch.compile modules {}).toOption.isSome) = true := by
    decide +kernel
  cases hbuild : [gapped, ModuleDraft.absence none].mapM ModuleDraft.build with
  | error e =>
    rw [hbuild] at hcompile
    cases hcompile
  | ok modules =>
    cases hbatch : Batch.compile modules {} with
    | error e => simp [hbuild, hbatch, Except.toOption] at hcompile
    | ok batch =>
      have harity : ∀ d ∈ [gapped, ModuleDraft.absence none], ∀ f ∈ d.functions, f.arity ≠ 2 := by
        decide +kernel
      have hstart : Reaches (Engine.register {} batch {}) (Engine.register {} batch {}) := .refl
      obtain ⟨-, -, hmiss⟩ := dispatch_of_invoke hbuild hbatch hstart
        (.inNamespace (ModuleDraft.defaultNamespace "sums") "sum") .empty [[], []]
      obtain ⟨err, hkind, hinvoke, -⟩ := hmiss fun k j d f hf =>
        harity d (List.mem_of_getElem? hf.draft) f (List.mem_of_getElem? hf.function)
      refine ⟨modules, batch, err, rfl, hbatch, hkind, ?_⟩
      rcases hinvoke with hinvoke | ⟨k, i, -, hinvoke⟩
      · rw [hinvoke]
      · rw [hinvoke]
        rfl

end Engine

end XPathExtension
