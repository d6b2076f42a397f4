import XPathExtension.Proofs.Generating
import XPathExtension.Proofs.Partition

/-!
The order of registration. What a built module calls under a name depends on the functions that are
registered under the name, and neither on their order nor on the functions under other names; and
whether a module can be built does not depend on the order of its functions.
-/

namespace XPathExtension

namespace OverloadSet

variable {α : Type} {sig : α → Signature} {functions functions' : List α} {g g' : OverloadSet}

/-- Groups that gather the same functions select them in the same order. -/
theorem Gathers.select_eq (h : g.Gathers sig functions) (h' : g'.Gathers sig functions')
    (hsame : (functions.filter fun f => (sig f).name = g.name).Perm
      (functions'.filter fun f => (sig f).name = g'.name)) :
    g.select functions = g'.select functions' := by
  have hperm := (h.perm.trans hsame).trans h'.perm.symm
  exact hperm.eq_of_pairwise (fun f k _ _ hfk hkf => absurd hfk (Nat.lt_asymm hkf))
    h.ascending h'.ascending

end OverloadSet

/-- The callable of a group depends on the functions that the group selects. -/
theorem Callable.ofGroup_congr {M : Type} {m m' : Module M} {g g' : OverloadSet}
    (hg : g.Gathers signatureOf m.functions) (hg' : g'.Gathers signatureOf m'.functions)
    (hmodule : m'.name = m.name) (hname : g'.name = g.name)
    (hselect : g'.select m'.functions = g.select m.functions) : ofGroup m' g' = ofGroup m g := by
  have hmin : g'.minArity = g.minArity := by rw [hg.minArity, hg'.minArity, hselect]
  have hmax : g'.maxArity = g.maxArity := by rw [hg.maxArity, hg'.maxArity, hselect]
  unfold ofGroup
  rw [hselect, hmin, hmax, hmodule, hname]

namespace ModuleDraft

variable {M : Type} {m m' : ModuleDraft M} {b b' : Module M} {f : FunctionDraft M}
  {g : DescribedFunction M} {name : String}

/-- The drafts may differ in their functions only. -/
structure AgreesWith (m m' : ModuleDraft M) : Prop where
  name : m'.name = m.name
  ns : m'.ns = m.ns
  bindings : m'.bindings = m.bindings
  isStatic : m'.isStatic = m.isStatic
  dependencies : m'.dependencies = m.dependencies

/-- The functions registered under a name. -/
def functionsNamed (m : ModuleDraft M) (name : String) : List (FunctionDraft M) :=
  m.functions.filter fun f => f.name = name

/-! ### Descriptions -/

theorem AgreesWith.symm (h : m.AgreesWith m') : m'.AgreesWith m :=
  ⟨h.name.symm, h.ns.symm, h.bindings.symm, h.isStatic.symm, h.dependencies.symm⟩

theorem AgreesWith.functionNamespace (h : m.AgreesWith m') :
    m'.functionNamespace = m.functionNamespace := by
  rw [ModuleDraft.functionNamespace, ModuleDraft.functionNamespace, h.ns, h.name]

theorem AgreesWith.exists_eq (h : m.AgreesWith m') : ∃ typeName initial functions,
    m' = { m with typeName := typeName, initial := initial, functions := functions } := by
  refine ⟨m'.typeName, m'.initial, m'.functions, ?_⟩
  rw [← h.name, ← h.ns, ← h.bindings, ← h.isStatic, ← h.dependencies]

/-- A description does not depend on the other functions. -/
theorem AgreesWith.describe (h : m.AgreesWith m') : m'.describe = m.describe := by
  obtain ⟨typeName, initial, functions, rfl⟩ := h.exists_eq
  rfl

/-- The functions of a built module under a name are the descriptions of those registered. -/
theorem Builds.functions_filter (hb : m.Builds b) (name : String) :
    (b.functions.filter fun g => g.description.name = .inNamespace m.functionNamespace name) =
      (m.functionsNamed name).filterMap fun f => (m.describe m.functionNamespace f).toOption := by
  refine Outcome.eq_filterMap (List.rel_filter (fun f g hdescribe => ?_) hb.functions)
  have hname := (describes_of_describe hdescribe).name
  simp [hname, ExpandedName.inNamespace]

theorem Builds.functions_perm (hb : m.Builds b) (h : m.AgreesWith m') (hb' : m'.Builds b')
    (hsame : (m.functionsNamed name).Perm (m'.functionsNamed name)) :
    (b.functions.filter fun g => g.description.name = .inNamespace m.functionNamespace name).Perm
      (b'.functions.filter fun g =>
        g.description.name = .inNamespace m.functionNamespace name) := by
  have hns := h.functionNamespace
  have hfunctions' := hb'.functions_filter name
  rw [hns, h.describe] at hfunctions'
  rw [hb.functions_filter name, hfunctions']
  exact hsame.filterMap _

/-! ### Callables -/

/-- A function of a built module is registered under each name that has a callable. -/
theorem Builds.mem_identities_iff (hb : m.Builds b) :
    ExpandedName.inNamespace m.functionNamespace name ∈ b.callables.map (·.identity) ↔
      m.functionsNamed name ≠ [] := by
  rw [identities_callables hb, functionNames, List.mem_eraseDups, List.mem_map, functionsNamed, Ne,
    List.filter_eq_nil_iff]
  simp [ExpandedName.inNamespace]

theorem Builds.nodup_identities (hb : m.Builds b) : (b.callables.map (·.identity)).Nodup := by
  rw [identities_callables hb]
  exact m.nodup_functionNames

/-- The callable of a name is determined by the functions registered under it. -/
theorem Builds.callable_eq (hb : m.Builds b) (h : m.AgreesWith m') (hb' : m'.Builds b')
    (hsame : (m.functionsNamed name).Perm (m'.functionsNamed name)) {c c' : Callable M}
    (hc : c ∈ b.callables) (hc' : c' ∈ b'.callables)
    (hidentity : c.identity = .inNamespace m.functionNamespace name)
    (hidentity' : c'.identity = .inNamespace m.functionNamespace name) : c' = c := by
  obtain ⟨g, hg, rfl⟩ := Module.exists_group hb.isGrouped hc
  obtain ⟨g', hg', rfl⟩ := Module.exists_group hb'.isGrouped hc'
  have hname : g.name = .inNamespace m.functionNamespace name := hidentity
  have hname' : g'.name = .inNamespace m.functionNamespace name := hidentity'
  have hselect : g.select b.functions = g'.select b'.functions := by
    refine hg.select_eq hg' ?_
    rw [hname, hname']
    exact hb.functions_perm h hb' hsame
  have hmodule : b'.name = b.name := by rw [hb.name, hb'.name, h.name]
  exact Callable.ofGroup_congr hg hg' hmodule (hname'.trans hname.symm) hselect.symm

theorem Builds.filter_eq_nil (hb : m.Builds b) (hnil : m.functionsNamed name = []) :
    (b.callables.filter fun c => c.identity = .inNamespace m.functionNamespace name) = [] := by
  refine List.filter_eq_nil_iff.2 fun c hc hidentity => ?_
  rw [decide_eq_true_eq] at hidentity
  have hmem : c.identity ∈ b.callables.map (·.identity) := List.mem_map_of_mem hc
  rw [hidentity] at hmem
  exact hb.mem_identities_iff.1 hmem hnil

theorem Builds.exists_filter_eq (hb : m.Builds b) (hne : m.functionsNamed name ≠ []) :
    ∃ c ∈ b.callables, c.identity = .inNamespace m.functionNamespace name ∧
      (b.callables.filter fun c => c.identity = .inNamespace m.functionNamespace name) = [c] := by
  obtain ⟨c, hc, hidentity⟩ := List.mem_map.1 (hb.mem_identities_iff.2 hne)
  refine ⟨c, hc, hidentity, ?_⟩
  rw [← hidentity]
  exact filter_eq_singleton_of_nodup hb.nodup_identities hc

/-- Both modules have the same callables of the name, one or none. -/
theorem Builds.filter_callables_eq (hb : m.Builds b) (h : m.AgreesWith m') (hb' : m'.Builds b')
    (hsame : (m.functionsNamed name).Perm (m'.functionsNamed name)) :
    (b.callables.filter fun c => c.identity = .inNamespace m.functionNamespace name) =
      b'.callables.filter fun c => c.identity = .inNamespace m.functionNamespace name := by
  have hns := h.functionNamespace
  by_cases hne : m.functionsNamed name = []
  · have hnil' : m'.functionsNamed name = [] := by
      rw [hne] at hsame
      exact hsame.nil_eq.symm
    have hfilter' := hb'.filter_eq_nil hnil'
    rw [hns] at hfilter'
    rw [hb.filter_eq_nil hne, hfilter']
  · have hne' : m'.functionsNamed name ≠ [] := by
      intro hnil
      rw [hnil] at hsame
      exact hne hsame.eq_nil
    obtain ⟨c, hc, hidentity, hfilter⟩ := hb.exists_filter_eq hne
    obtain ⟨c', hc', hidentity', hfilter'⟩ := hb'.exists_filter_eq hne'
    rw [hns] at hidentity' hfilter'
    rw [hfilter, hfilter', hb.callable_eq h hb' hsame hc hc' hidentity hidentity']

/-! ### Building -/

theorem exists_build_of_perm (h : m.AgreesWith m') (hperm : m.functions.Perm m'.functions)
    (hbuild : m.build = .ok b) : ∃ b', m'.build = .ok b' := by
  simp only [build, Outcome.bind_eq_ok_iff] at hbuild
  obtain ⟨⟨⟩, hname, ⟨⟩, hdependencies, ns, hns, functions, hfunctions, groups, hgroups, -⟩ :=
    hbuild
  have hdescribed := Outcome.mapM_eq_ok_iff.1 hfunctions
  have hall : ∀ f ∈ m'.functions, ∃ g, m'.describe ns f = .ok g := by
    intro f hf
    rw [h.describe]
    exact (Outcome.exists_of_mem_left hdescribed (hperm.mem_iff.2 hf)).imp fun g hg => hg.2
  obtain ⟨functions', hdescribed'⟩ := Outcome.exists_forall₂ hall
  have hsame : functions.Perm functions' := by
    rw [Outcome.eq_filterMap hdescribed, Outcome.eq_filterMap hdescribed', h.describe]
    exact hperm.filterMap _
  have hsignatures : (functions'.map Callable.signatureOf).Nodup :=
    (hsame.map _).nodup_iff.1 (exists_group_iff.1 ⟨groups, hgroups⟩)
  obtain ⟨groups', hgroups'⟩ := (exists_group_iff (m := m')).2 hsignatures
  obtain ⟨typeName, initial, fs, rfl⟩ := h.exists_eq
  refine ⟨{ m with
    typeName := typeName, initial := initial, ns := ns, functions := functions',
    groups := groups' }, ?_⟩
  simp only [build, Outcome.bind_eq_ok_iff]
  exact ⟨(), hname, (), hdependencies, ns, hns, functions', Outcome.mapM_eq_ok_iff.2 hdescribed',
    groups', hgroups', rfl⟩

/-- For drafts that differ in their functions only, what built modules call under a name is the same
if the functions under the name are the same up to their order, whatever the other functions are;
and if all functions are the same up to their order, one draft can be built if and only if the other
can. -/
theorem generate_of_reordered (h : m.AgreesWith m') :
    (∀ name b b', (m.functionsNamed name).Perm (m'.functionsNamed name) →
      m.build = .ok b → m'.build = .ok b' → ∃ cs cs', b.generate = .ok cs ∧ b'.generate = .ok cs' ∧
        (cs.filter fun c => c.identity = .inNamespace m.functionNamespace name) =
          (cs'.filter fun c => c.identity = .inNamespace m.functionNamespace name) ∧
        (m.functionsNamed name ≠ [] → ∃ c,
          (cs.filter fun c => c.identity = .inNamespace m.functionNamespace name) = [c])) ∧
      (m.functions.Perm m'.functions →
        ((∃ b, m.build = .ok b) ↔ ∃ b', m'.build = .ok b')) := by
  constructor
  · intro name b b' hsame hbuild hbuild'
    have hb := builds_of_build hbuild
    have hb' := builds_of_build hbuild'
    refine ⟨b.callables, b'.callables, Module.generate_eq_ok hb.isGrouped,
      Module.generate_eq_ok hb'.isGrouped, hb.filter_callables_eq h hb' hsame, fun hne => ?_⟩
    obtain ⟨c, -, -, hfilter⟩ := hb.exists_filter_eq hne
    exact ⟨c, hfilter⟩
  · intro hperm
    constructor
    · rintro ⟨b, hbuild⟩
      exact exists_build_of_perm h hperm hbuild
    · rintro ⟨b', hbuild'⟩
      exact exists_build_of_perm h.symm hperm.symm hbuild'

/-- The functions of one name the other way round, behind one of another name. -/
def rearranged : ModuleDraft Unit :=
  { scattered with
    functions := [("one", 1), ("sum", 1), ("sum", 3)].map fun f => {
      name := f.1
      native := .ofFunction (List.replicate f.2 (.base .bool)) (.base .bool) fun _ => true } }

theorem generate_of_reordered_rearranged :
    ∃ b b' cs cs' c, scattered.build = .ok b ∧ rearranged.build = .ok b' ∧
      b.generate = .ok cs ∧ b'.generate = .ok cs' ∧
      (cs.filter fun c => c.identity = .inNamespace scattered.functionNamespace "sum") = [c] ∧
      (cs'.filter fun c => c.identity = .inNamespace scattered.functionNamespace "sum") = [c] := by
  have hagrees : scattered.AgreesWith rearranged := ⟨rfl, rfl, rfl, rfl, rfl⟩
  have hsame : (scattered.functionsNamed "sum").Perm (rearranged.functionsNamed "sum") :=
    .swap _ _ []
  have hbuilds : scattered.build.toOption.isSome = true := by decide +kernel
  have hbuilds' : rearranged.build.toOption.isSome = true := by decide +kernel
  cases hbuild : scattered.build with
  | error e =>
    rw [hbuild] at hbuilds
    cases hbuilds
  | ok b =>
    cases hbuild' : rearranged.build with
    | error e =>
      rw [hbuild'] at hbuilds'
      cases hbuilds'
    | ok b' =>
      obtain ⟨cs, cs', hgenerate, hgenerate', heq, hfound⟩ :=
        (generate_of_reordered hagrees).1 "sum" b b' hsame hbuild hbuild'
      obtain ⟨c, hc⟩ := hfound (List.cons_ne_nil _ _)
      exact ⟨b, b', cs, cs', c, rfl, rfl, hgenerate, hgenerate', hc, heq.symm.trans hc⟩

end ModuleDraft

end XPathExtension
