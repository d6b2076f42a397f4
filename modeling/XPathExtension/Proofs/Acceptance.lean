import XPathExtension.Instantiation
import XPathExtension.Proofs.Gating
import XPathExtension.Proofs.Generating

/-!
Acceptance of batches. A batch of built modules is refused for three reasons only: a module has its
functions in a reserved namespace, a name has been provided by an earlier module, or, where warnings
count, a number of arguments in the range of a function has no overload or the types of an overload
are not the declared ones. The first reason in the order of the batch is reported. An accepted batch
lists its functions module by module, and its instantiations have exactly these.
-/

namespace XPathExtension

variable {M : Type}

/-! ### Findings of built modules -/

namespace Callable

variable {c : Callable M}

/-- A number of arguments in the range has no overload. -/
def HasGap (c : Callable M) : Prop := ∃ n, c.minArity ≤ n ∧ n ≤ c.maxArity ∧ n ∉ c.arities

/-- An overload has a parameter of another type than the declared one. -/
def HasOtherType (c : Callable M) : Prop :=
  ∃ o ∈ c.dispatch, ∃ (k : Nat) (slot : Slot) (declared : SequenceType),
    o.inputs[k]? = some slot ∧ c.argumentTypes[k]? = some declared ∧ slot.type ≠ declared

theorem isAscending_of_pairwise {ns : List Nat} (h : ns.Pairwise (· < ·)) :
    isAscending ns = true := by
  induction ns with
  | nil => rfl
  | cons a ns ih =>
    obtain ⟨hfirst, hrest⟩ := List.pairwise_cons.1 h
    cases ns with
    | nil => rfl
    | cons b ns => simp [isAscending, hfirst b List.mem_cons_self, ih hrest]

theorem mem_gaps_iff {n : Nat} (h : c.minArity ≤ c.maxArity) :
    n ∈ c.gaps ↔ c.minArity ≤ n ∧ n ≤ c.maxArity ∧ n ∉ c.arities := by
  have hrange : n ∈ List.range' c.minArity (c.maxArity - c.minArity + 1) ↔
      c.minArity ≤ n ∧ n ≤ c.maxArity := by
    rw [List.mem_range'_1]
    omega
  rw [gaps, List.mem_filter, hrange, and_assoc]
  simp

theorem gaps_eq_nil_iff (h : c.minArity ≤ c.maxArity) : c.gaps = [] ↔ ¬ c.HasGap := by
  rw [List.eq_nil_iff_forall_not_mem, HasGap, not_exists]
  exact forall_congr' fun n => not_congr (mem_gaps_iff h)

instance (c : Callable M) : Decidable c.HasGap :=
  decidable_of_iff (¬ ∀ n ∈ List.range c.maxArity.succ, c.minArity ≤ n → n ∈ c.arities) (by
    simp only [HasGap, List.mem_range, Nat.lt_succ_iff, not_forall, exists_prop]
    exact exists_congr fun n => and_left_comm)

theorem otherTypes_eq_nil_iff :
    (∀ o ∈ c.dispatch, c.otherTypes o = []) ↔ ¬ c.HasOtherType := by
  constructor
  · rintro h ⟨o, ho, k, slot, declared, hslot, hdeclared, hne⟩
    exact hne (types_of_otherTypes (h o ho) hslot hdeclared)
  · intro h o ho
    refine List.filterMap_eq_nil_iff.2 ?_
    rintro ⟨⟨slot, declared⟩, k⟩ hmem
    have hpair := List.mk_mem_zipIdx_iff_getElem?.1 hmem
    obtain ⟨hslot, hdeclared⟩ := List.getElem?_zip_eq_some.1 hpair
    have heq : slot.type = declared := by
      by_contra hne
      exact h ⟨o, ho, k, slot, declared, hslot, hdeclared, hne⟩
    simp [heq]

instance (c : Callable M) : Decidable c.HasOtherType :=
  decidable_of_iff (¬ ∀ o ∈ c.dispatch, c.otherTypes o = [])
    (by rw [otherTypes_eq_nil_iff, not_not])

/-- The function fails a batch if warnings do. -/
def Warns (c : Callable M) : Prop := c.HasGap ∨ c.HasOtherType

instance (c : Callable M) : Decidable c.Warns := by unfold Warns; infer_instance

theorem warnings_eq_nil_iff (h : c.minArity ≤ c.maxArity) : c.warnings = [] ↔ ¬ c.Warns := by
  rw [Warns, not_or, ← gaps_eq_nil_iff h, ← otherTypes_eq_nil_iff, warnings,
    List.append_eq_nil_iff, List.flatMap_eq_nil_iff]
  refine and_congr_left fun _ => ?_
  cases c.gaps <;> simp

theorem severity_of_mem_warnings {f : Finding} (h : f ∈ c.warnings) : f.severity = .warning := by
  rcases List.mem_append.1 h with h | h
  · split at h
    · cases h
    · obtain rfl := List.mem_singleton.1 h
      rfl
  · obtain ⟨o, -, ho⟩ := List.mem_flatMap.1 h
    obtain ⟨⟨⟨slot, declared⟩, k⟩, -, hf⟩ := List.mem_filterMap.1 ho
    dsimp only at hf
    split at hf
    · cases hf
    · obtain rfl := Option.some.inj hf
      rfl

/-- Nothing is wrong with the tables of a callable of a built module. -/
theorem findings_eq_warnings {m : ModuleDraft M} (h : c.Presents m) : c.findings = c.warnings := by
  have hnonempty : c.arities ≠ [] := by
    intro hnil
    have hfirst := h.first
    rw [hnil] at hfirst
    cases hfirst
  have hfaults : c.tableFaults = [] := by
    have hoverloads : ∀ o ∈ c.dispatch, c.overloadFaults o = [] := by
      intro o ho
      obtain ⟨hcount, f, g, hbinds, -⟩ := h.overloads o ho
      obtain ⟨-, htype⟩ := h.selected _ f g hbinds
      simp [overloadFaults, hcount, htype]
    simpa [tableFaults, h.resultCount, h.argumentCount] using hoverloads
  unfold findings
  simp [hnonempty, isAscending_of_pairwise h.ascending, h.first, h.last, hfaults]

end Callable

/-! ### Faults in the order of a batch -/

section Search

variable {α β γ : Type} {f : α → List β} {p : β → Bool} {key : β → γ} {q : α → Bool} {h : α → γ}

/-- What is found first in a list of lists is what stands for the first list with a hit. -/
theorem map_find?_flatMap {as : List α}
    (hf : ∀ a ∈ as, ((f a).find? p).map key = if q a then some (h a) else none) :
    ((as.flatMap f).find? p).map key = ((as.filter q).map h).head? := by
  induction as with
  | nil => rfl
  | cons a as ih =>
    obtain ⟨ha, has⟩ := List.forall_mem_cons.1 hf
    rw [List.flatMap_cons, List.find?_append, Option.map_or, ha, ih has]
    cases hq : q a <;> simp [hq]

end Search

namespace Batch

variable {options : LoadOptions} {modules before : List (Module M)} {m : Module M}

/-- The faults of a module after other modules: of its namespace, of its functions and of names that
were provided before. Each is given by the function that it is reported for. -/
def faultsAfter (options : LoadOptions) (before : List (Module M)) (m : Module M) : List String :=
  (if m.ns ∈ Namespace.reserved then ["*"] else []) ++
    ((m.callables.filter fun c => options.failOnWarnings && decide c.Warns).map
      (·.identity.text)) ++
    (m.identities.filter fun n => n ∈ before.flatMap Module.identities).map ExpandedName.text

/-- The faults of a batch after other modules, with the names of the modules. -/
def faultsFrom (options : LoadOptions) (before : List (Module M)) :
    List (Module M) → List (String × String)
  | [] => []
  | m :: ms => (faultsAfter options before m).map (fun f => (m.name, f)) ++
      faultsFrom options (before ++ [m]) ms

def faults (options : LoadOptions) (modules : List (Module M)) : List (String × String) :=
  faultsFrom options [] modules

/-- The place that a diagnostic is reported for. -/
def place (d : Diagnostic) : String × String := (d.moduleName, d.function)

/-- The names of a module, each once, are recorded, and those provided before are clashes. -/
theorem foldl_claim {moduleName : String} {names : List ExpandedName} (hn : names.Nodup)
    (ds : List Diagnostic) (provided : Provided) :
    names.foldl (claim moduleName) (ds, provided) =
      (ds ++ names.filterMap fun n =>
          (provided.lookup n).map fun owner => ⟨moduleName, n.text, .clash owner⟩,
        provided ++ (names.filter fun n => (provided.lookup n).isNone).map fun n =>
          (n, moduleName)) := by
  induction names generalizing ds provided with
  | nil => simp
  | cons n names ih =>
    obtain ⟨hnew, hrest⟩ := List.nodup_cons.1 hn
    rw [List.foldl_cons]
    cases hl : provided.lookup n with
    | some owner =>
      have hclaim : claim moduleName (ds, provided) n =
          (ds ++ [⟨moduleName, n.text, .clash owner⟩], provided) := by
        simp [claim, hl]
      rw [hclaim, ih hrest]
      simp [hl]
    | none =>
      have hclaim : claim moduleName (ds, provided) n = (ds, provided ++ [(n, moduleName)]) := by
        simp [claim, hl]
      -- the names that follow are others, so their look-ups do not see the new record
      have hlookup (k : ExpandedName) (hk : k ∈ names) :
          (provided ++ [(n, moduleName)]).lookup k = provided.lookup k := by
        have hne : (k == n) = false := by
          rw [beq_eq_false_iff_ne]
          rintro rfl
          exact hnew hk
        simp [List.lookup_append, List.lookup_cons, hne]
      rw [hclaim, ih hrest]
      have hclashes : (names.filterMap fun k => ((provided ++ [(n, moduleName)]).lookup k).map
          fun owner => (⟨moduleName, k.text, .clash owner⟩ : Diagnostic)) =
          names.filterMap fun k => (provided.lookup k).map
            fun owner => ⟨moduleName, k.text, .clash owner⟩ :=
        List.filterMap_congr fun k hk => by rw [hlookup k hk]
      have hrecorded : (names.filter fun k => ((provided ++ [(n, moduleName)]).lookup k).isNone) =
          names.filter fun k => (provided.lookup k).isNone :=
        List.filter_congr fun k hk => by rw [hlookup k hk]
      rw [hclashes, hrecorded]
      simp [hl]

/-- Nothing but warnings is found on the functions of the module, and no two have one name. -/
structure IsTidy (m : Module M) : Prop where
  nodup : m.identities.Nodup
  findings : ∀ c ∈ m.callables, c.findings = c.warnings
  range : ∀ c ∈ m.callables, c.minArity ≤ c.maxArity

theorem isTidy_of_builds {d : ModuleDraft M} (hb : d.Builds m) : IsTidy m := by
  have hpresents (c : Callable M) (hc : c ∈ m.callables) := ModuleDraft.presents_of_mem hb hc
  refine ⟨?_, fun c hc => Callable.findings_eq_warnings (hpresents c hc), fun c hc => ?_⟩
  · rw [Module.identities, ModuleDraft.identities_callables hb]
    exact d.nodup_functionNames
  · obtain ⟨⟨f, hf, hname, harity⟩, -⟩ := Module.ends_of_mem hb.isGrouped hc
    rw [← harity]
    exact (Module.range_of_mem hb.isGrouped hc hf hname).2

theorem isTidy_of_mapM_build {drafts : List (ModuleDraft M)}
    (h : drafts.mapM ModuleDraft.build = .ok modules) : ∀ m ∈ modules, IsTidy m := by
  intro m hm
  obtain ⟨d, -, hd⟩ := Outcome.exists_of_mem_right (Outcome.mapM_eq_ok_iff.1 h) hm
  exact isTidy_of_builds (ModuleDraft.builds_of_build hd)

/-- Names that have been provided are those of the modules before. -/
def Records (provided : Provided) (before : List (Module M)) : Prop :=
  ∀ n, (provided.lookup n).isSome = true ↔ n ∈ before.flatMap Module.identities

theorem isSome_lookup_iff {provided : Provided} {n : ExpandedName} :
    (provided.lookup n).isSome = true ↔ n ∈ provided.map (·.1) := by
  rw [← not_iff_not, Bool.not_eq_true, Option.isSome_eq_false_iff, Option.isNone_iff_eq_none,
    List.lookup_eq_none_iff, List.mem_map, not_exists]
  refine forall_congr' fun p => ?_
  rw [not_and]
  exact imp_congr_right fun _ => by rw [bne_iff_ne, ne_comm]

theorem Records.append {provided : Provided} (hp : Records provided before) (hm : IsTidy m) :
    Records (m.identities.foldl (claim m.name) ([], provided)).2 (before ++ [m]) := by
  intro n
  have hn := hp n
  rw [isSome_lookup_iff] at hn
  rw [isSome_lookup_iff, foldl_claim hm.nodup, List.flatMap_append]
  simp only [List.map_append, List.map_map, Function.comp_def, List.map_id', List.mem_append, hn,
    List.mem_filter, List.flatMap_cons, List.flatMap_nil, List.append_nil]
  by_cases hknown : n ∈ before.flatMap Module.identities
  · simp [hknown]
  · have hnone : (provided.lookup n).isNone = true := by
      cases hl : provided.lookup n with
      | none => rfl
      | some owner => exact absurd ((hp n).1 (by rw [hl]; rfl)) hknown
    simp [hknown, hnone]

theorem find?_warnings {c : Callable M} (hf : c.findings = c.warnings)
    (hr : c.minArity ≤ c.maxArity) (moduleName : String) :
    ((c.findings.map fun f => (⟨moduleName, c.identity.text, f⟩ : Diagnostic)).find?
        (isFatal options)).map place =
      if options.failOnWarnings && decide c.Warns then some (moduleName, c.identity.text)
      else none := by
  have hfatal : ∀ f ∈ c.warnings,
      isFatal options (⟨moduleName, c.identity.text, f⟩ : Diagnostic) = options.failOnWarnings := by
    intro f hf
    simp [isFatal, Callable.severity_of_mem_warnings hf]
  have hempty := Callable.warnings_eq_nil_iff hr
  rw [hf]
  cases hfail : options.failOnWarnings with
  | false =>
    have hnone : (c.warnings.map fun f => (⟨moduleName, c.identity.text, f⟩ : Diagnostic)).find?
        (isFatal options) = none := by
      simpa [List.find?_eq_none, hfail] using hfatal
    rw [hnone]
    rfl
  | true =>
    cases hw : c.warnings with
    | nil =>
      rw [hw] at hempty
      simp [hempty.1 rfl]
    | cons f fs =>
      have hwarns : c.Warns := by
        by_contra hwarns
        rw [hempty.2 hwarns] at hw
        cases hw
      have hfirst := hfatal f (by rw [hw]; exact List.mem_cons_self)
      simp [hfirst, hfail, hwarns, place]

theorem find?_clashes (options : LoadOptions) {provided : Provided}
    (hp : Records provided before) (moduleName : String) (names : List ExpandedName) :
    ((names.filterMap fun n => (provided.lookup n).map fun owner =>
        (⟨moduleName, n.text, .clash owner⟩ : Diagnostic)).find? (isFatal options)).map place =
      ((names.filter fun n => n ∈ before.flatMap Module.identities).map fun n =>
        (moduleName, n.text)).head? := by
  rw [List.filterMap_eq_flatMap_toList]
  refine map_find?_flatMap fun n _ => ?_
  have hn := hp n
  cases hl : provided.lookup n with
  | none =>
    rw [hl] at hn
    have hunknown : n ∉ before.flatMap Module.identities := by simpa using hn
    simp [hunknown]
  | some owner =>
    rw [hl] at hn
    have hknown : n ∈ before.flatMap Module.identities := hn.1 rfl
    simp [hknown, isFatal, Finding.severity, place]

theorem find?_module {provided : Provided} (hp : Records provided before) (hm : IsTidy m) :
    ((m.diagnostics ++ (m.identities.foldl (claim m.name) ([], provided)).1).find?
        (isFatal options)).map place =
      ((faultsAfter options before m).map fun f => (m.name, f)).head? := by
  have hreserved : ((if m.ns ∈ Namespace.reserved then
        [(⟨m.name, "*", .reservedNamespace m.ns⟩ : Diagnostic)] else []).find?
        (isFatal options)).map place =
      ((if m.ns ∈ Namespace.reserved then ["*"] else []).map fun f => (m.name, f)).head? := by
    split
    · simp [isFatal, Finding.severity, place]
    · rfl
  have hwarnings : ((m.callables.flatMap fun c => c.findings.map fun f =>
        (⟨m.name, c.identity.text, f⟩ : Diagnostic)).find? (isFatal options)).map place =
      ((m.callables.filter fun c => options.failOnWarnings && decide c.Warns).map fun c =>
        (m.name, c.identity.text)).head? :=
    map_find?_flatMap fun c hc => find?_warnings (hm.findings c hc) (hm.range c hc) m.name
  have hclashes := find?_clashes options hp m.name m.identities
  rw [foldl_claim hm.nodup, List.nil_append, Module.diagnostics, List.find?_append,
    List.find?_append, Option.map_or, Option.map_or, hreserved, hwarnings, hclashes, faultsAfter,
    List.map_append, List.map_append, List.head?_append, List.head?_append, List.map_map,
    List.map_map]
  rfl

theorem find?_diagnosticsFrom {provided : Provided} (hp : Records provided before)
    (hms : ∀ m ∈ modules, IsTidy m) :
    ((diagnosticsFrom provided modules).find? (isFatal options)).map place =
      (faultsFrom options before modules).head? := by
  induction modules generalizing provided before with
  | nil => rfl
  | cons m ms ih =>
    obtain ⟨hm, hms⟩ := List.forall_mem_cons.1 hms
    rw [diagnosticsFrom, faultsFrom, List.find?_append, Option.map_or, find?_module hp hm,
      ih (hp.append hm) hms, List.head?_append]

/-- What fails a batch of built modules is the first of its faults. -/
theorem find?_diagnostics (hms : ∀ m ∈ modules, IsTidy m) :
    ((diagnostics modules).find? (isFatal options)).map place = (faults options modules).head? :=
  find?_diagnosticsFrom (by simp [Records]) hms

/-- What a batch has to be for acceptance. -/
structure Acceptable (options : LoadOptions) (modules : List (Module M)) : Prop where
  unreserved : ∀ m ∈ modules, m.ns ∉ Namespace.reserved
  distinct : modules.Pairwise fun m m' => m.identities.Disjoint m'.identities
  quiet : options.failOnWarnings = true → ∀ m ∈ modules, ∀ c ∈ m.callables,
    ¬ c.HasGap ∧ ¬ c.HasOtherType

theorem faultsAfter_eq_nil_iff : faultsAfter options before m = [] ↔
    m.ns ∉ Namespace.reserved ∧
      (options.failOnWarnings = true → ∀ c ∈ m.callables, ¬ c.HasGap ∧ ¬ c.HasOtherType) ∧
      ∀ m' ∈ before, m'.identities.Disjoint m.identities := by
  simp only [faultsAfter, List.append_eq_nil_iff, List.map_eq_nil_iff, List.filter_eq_nil_iff,
    and_assoc]
  refine and_congr ?_ (and_congr ?_ ?_)
  · split <;> simp_all
  · cases options.failOnWarnings with
    | false => simp
    | true =>
      simp only [Bool.true_and, decide_eq_true_eq, forall_const]
      exact forall₂_congr fun c _ => not_or (p := c.HasGap)
  · simp only [List.mem_flatMap, decide_eq_true_eq, not_exists, not_and]
    exact ⟨fun h m' hm' n hn' hn => h n hn m' hm' hn', fun h n hn m' hm' hn' => h m' hm' hn' hn⟩

theorem acceptable_cons {ms : List (Module M)} : Acceptable options (m :: ms) ↔
    m.ns ∉ Namespace.reserved ∧
      (options.failOnWarnings = true → ∀ c ∈ m.callables, ¬ c.HasGap ∧ ¬ c.HasOtherType) ∧
      (∀ m' ∈ ms, m.identities.Disjoint m'.identities) ∧ Acceptable options ms := by
  constructor
  · rintro ⟨hunreserved, hdistinct, hquiet⟩
    rw [List.forall_mem_cons] at hunreserved
    rw [List.pairwise_cons] at hdistinct
    exact ⟨hunreserved.1, fun hfail => hquiet hfail m List.mem_cons_self, hdistinct.1,
      hunreserved.2, hdistinct.2, fun hfail m' hm' => hquiet hfail m' (List.mem_cons_of_mem m hm')⟩
  · rintro ⟨hns, hwarns, hdisjoint, hunreserved, hdistinct, hquiet⟩
    exact ⟨List.forall_mem_cons.2 ⟨hns, hunreserved⟩, List.pairwise_cons.2 ⟨hdisjoint, hdistinct⟩,
      fun hfail => List.forall_mem_cons.2 ⟨hwarns hfail, hquiet hfail⟩⟩

theorem faultsFrom_eq_nil_iff : faultsFrom options before modules = [] ↔
    Acceptable options modules ∧
      ∀ m' ∈ before, ∀ m ∈ modules, m'.identities.Disjoint m.identities := by
  induction modules generalizing before with
  | nil => exact ⟨fun _ => ⟨⟨by simp, .nil, by simp⟩, by simp⟩, fun _ => rfl⟩
  | cons m ms ih =>
    rw [faultsFrom, List.append_eq_nil_iff, List.map_eq_nil_iff, faultsAfter_eq_nil_iff, ih,
      acceptable_cons]
    simp only [List.forall_mem_append, List.forall_mem_cons]
    constructor
    · rintro ⟨⟨hns, hwarns, hbefore⟩, hms, hrest, hm, -⟩
      exact ⟨⟨hns, hwarns, hm, hms⟩, fun m' hm' => ⟨hbefore m' hm', hrest m' hm'⟩⟩
    · rintro ⟨⟨hns, hwarns, hm, hms⟩, hbefore⟩
      exact ⟨⟨hns, hwarns, fun m' hm' => (hbefore m' hm').1⟩, hms,
        fun m' hm' => (hbefore m' hm').2, hm, by simp⟩

/-- A batch has no faults if and only if it is acceptable. -/
theorem faults_eq_nil_iff : faults options modules = [] ↔ Acceptable options modules := by
  rw [faults, faultsFrom_eq_nil_iff]
  simp

/-! ### Accepted batches -/

end Batch

namespace Engine

/-- The registration of a function whose instance comes after so many others. -/
def registrationAfter (base : Nat) (x : Extension M) : Registration (Extension M) :=
  ⟨x.callable.identity, x.callable.minArity, x.callable.maxArity,
    ⟨x.callable, base + x.instanceIndex⟩⟩

theorem registrations_adopt (e : Engine M) (i : Instantiation M) :
    (e.adopt i).1.registry.registrations =
      e.registry.registrations ++ i.functions.map (registrationAfter e.instances.length) := by
  rw [← Registry.registrations_foldl_register, List.foldl_map]
  rfl

/-- Registering a batch is registering the functions of an instantiation of it. -/
theorem adopt_instantiate (e : Engine M) (batch : CompiledBatch M) (providers : Providers) :
    (e.adopt (batch.instantiate providers)).1 = e.register batch providers := by
  have hregistrations : (e.adopt (batch.instantiate providers)).1.registry.registrations =
      (e.register batch providers).registry.registrations := by
    rw [registrations_adopt, registrations_register, List.zipIdx_eq_map_add, List.flatMap_map,
      CompiledBatch.instantiate, CompiledBatch.extensions, List.map_flatMap]
    simp only [registrations, List.map_map]
    rfl
  have hinstances : (e.adopt (batch.instantiate providers)).1.instances =
      (e.register batch providers).instances := by
    rw [instances_register]
    rfl
  generalize (e.adopt (batch.instantiate providers)).1 = e₁ at *
  generalize e.register batch providers = e₂ at *
  obtain ⟨⟨rs₁⟩, is₁⟩ := e₁
  obtain ⟨⟨rs₂⟩, is₂⟩ := e₂
  obtain rfl : rs₁ = rs₂ := hregistrations
  obtain rfl : is₁ = is₂ := hinstances
  rfl

end Engine

namespace Batch

variable {options : LoadOptions} {modules : List (Module M)} {drafts : List (ModuleDraft M)}
  {batch : CompiledBatch M}

/-- What an accepted batch has of the modules. -/
structure Lists (drafts : List (ModuleDraft M)) (batch : CompiledBatch M) : Prop where
  /-- The functions, module by module, in the order in which their names first occur. -/
  functions : batch.functions =
    drafts.flatMap fun d => d.functionNames.map fun n => (d.name, n)
  nodup : (batch.functions.map (·.2)).Nodup
  instantiates : ∀ providers,
    (batch.instantiate providers).functions.map (·.callable.identity) = batch.functions.map (·.2)
  registers : ∀ (e : Engine M) (providers : Providers),
    (e.adopt (batch.instantiate providers)).2 = batch.functions.length ∧
      (e.adopt (batch.instantiate providers)).1.registry.registrations.map (·.name) =
        e.registry.registrations.map (·.name) ++ batch.functions.map (·.2)

theorem functions_of_builds (h : List.Forall₂ (fun d b => d.build = .ok b) drafts modules) :
    functions modules = drafts.flatMap fun d => d.functionNames.map fun n => (d.name, n) := by
  unfold functions
  induction h with
  | nil => rfl
  | cons hbuild _ ih =>
    have hb := ModuleDraft.builds_of_build hbuild
    have hidentities := ModuleDraft.identities_callables hb
    rw [List.flatMap_cons, List.flatMap_cons, ih, Module.identities, hidentities, hb.name]

theorem names_functions (modules : List (Module M)) :
    (functions modules).map (·.2) = modules.flatMap Module.identities := by
  simp [functions, List.map_flatMap, Function.comp_def]

theorem names_extensions (batch : CompiledBatch M) :
    batch.extensions.map (·.callable.identity) = batch.modules.flatMap Module.identities := by
  unfold CompiledBatch.extensions
  rw [List.map_flatMap]
  conv_rhs => rw [← List.zipIdx_map_fst 0 batch.modules, List.flatMap_map]
  simp [Module.identities, Function.comp_def]

theorem lists_of_compile (hbuild : drafts.mapM ModuleDraft.build = .ok modules)
    (h : compile modules options = .ok batch) : Lists drafts batch := by
  obtain ⟨hmodules, hnodup⟩ := of_compile h
  have hfunctions : batch.functions = functions modules := by
    unfold compile at h
    split at h
    · cases h
    · obtain rfl := Except.ok.inj h
      rfl
  have hnames : batch.functions.map (·.2) = modules.flatMap Module.identities := by
    rw [hfunctions, names_functions]
  have hextensions : batch.extensions.map (·.callable.identity) = batch.functions.map (·.2) := by
    rw [names_extensions, hmodules, hnames]
  refine ⟨?_, ?_, fun _ => hextensions, fun e providers => ⟨?_, ?_⟩⟩
  · rw [hfunctions, functions_of_builds (Outcome.mapM_eq_ok_iff.1 hbuild)]
  · rwa [hnames]
  · have hlength := congrArg List.length hextensions
    rwa [List.length_map, List.length_map] at hlength
  · rw [Engine.registrations_adopt, List.map_append, List.map_map, ← hextensions]
    rfl

/-- Compilation accepts a batch of built modules if and only if it is acceptable. An accepted batch
lists all functions and nothing else, and so do its instantiations. A refusal names the module and
the function of the first fault. -/
theorem compile_iff_acceptable (hbuild : drafts.mapM ModuleDraft.build = .ok modules)
    (options : LoadOptions) :
    ((∃ batch, compile modules options = .ok batch) ↔ Acceptable options modules) ∧
      (∀ batch, compile modules options = .ok batch → Lists drafts batch) ∧
      ∀ e, compile modules options = .error e → ∃ function finding plan,
        e.fault = .compilation function finding plan ∧
          (faults options modules).head? = some (e.moduleName, function) := by
  have htidy : ∀ m ∈ modules, IsTidy m := by
    intro m hm
    obtain ⟨d, -, hd⟩ := Outcome.exists_of_mem_right (Outcome.mapM_eq_ok_iff.1 hbuild) hm
    exact isTidy_of_builds (ModuleDraft.builds_of_build hd)
  have hfind : ((diagnostics modules).find? (isFatal options)).map place =
      (faults options modules).head? :=
    find?_diagnostics htidy
  refine ⟨?_, fun batch hbatch => lists_of_compile hbuild hbatch, fun e he => ?_⟩
  · rw [← faults_eq_nil_iff, ← List.head?_eq_none_iff, ← hfind, Option.map_eq_none_iff, compile]
    cases (diagnostics modules).find? (isFatal options) <;> simp
  · unfold compile at he
    split at he
    case h_1 d hd =>
      obtain rfl := Except.error.inj he
      rw [hd] at hfind
      exact ⟨_, _, _, rfl, hfind.symm⟩
    case h_2 => cases he

/-- A module with a function of one name with those of another module, in its namespace. -/
def rival : ModuleDraft Unit where
  typeName := "Rivals"
  initial := ()
  name := "rivals"
  ns := some (ModuleDraft.defaultNamespace "sums")
  functions := ["difference", "sum"].map fun name => {
    name := name
    native := .ofFunction [] (.base .bool) fun _ => true }

theorem compile_iff_acceptable_rival :
    ∃ modules e finding plan,
      [ModuleDraft.scattered, rival].mapM ModuleDraft.build = .ok modules ∧
        compile modules {} = .error e ∧ e.moduleName = "rivals" ∧
        e.fault = .compilation "Q\x7burn:platynui:ext:sums\x7dsum" finding plan := by
  have hfaults : ([ModuleDraft.scattered, rival].mapM ModuleDraft.build).toOption.any
      (fun modules => (compile modules {}).toOption.isNone &&
        decide ((faults {} modules).head? =
          some ("rivals", "Q\x7burn:platynui:ext:sums\x7dsum"))) = true := by
    decide +kernel
  cases hbuild : [ModuleDraft.scattered, rival].mapM ModuleDraft.build with
  | error e =>
    rw [hbuild] at hfaults
    cases hfaults
  | ok modules =>
    obtain ⟨hrefused, hfirst⟩ : (compile modules {}).toOption.isNone = true ∧
        (faults {} modules).head? = some ("rivals", "Q\x7burn:platynui:ext:sums\x7dsum") := by
      simpa [hbuild, Except.toOption] using hfaults
    cases hcompile : compile modules {} with
    | ok batch => simp [hcompile, Except.toOption] at hrefused
    | error e =>
      obtain ⟨-, -, hrefusal⟩ := compile_iff_acceptable hbuild {}
      obtain ⟨function, finding, plan, hfault, hplace⟩ := hrefusal e hcompile
      obtain ⟨hmodule, rfl⟩ := Prod.mk.inj (Option.some.inj (hplace.symm.trans hfirst))
      exact ⟨modules, e, finding, plan, rfl, hcompile, hmodule, hfault⟩

end Batch

end XPathExtension
