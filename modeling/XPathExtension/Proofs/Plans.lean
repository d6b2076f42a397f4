import XPathExtension.Proofs.Acceptance

/-!
Plans of refused batches. A batch is refused for the first diagnostic that counts. Each diagnostic
concerns one module: its namespace, a function of it, or a name of it that an earlier module has as
well. The error names this module and has the plan of the first module so named, which is the module
itself where no earlier one has its name.
-/

namespace XPathExtension.Batch

variable {M : Type} {options : LoadOptions} {modules before : List (Module M)} {m : Module M}
  {d : Diagnostic} {provided : Provided}

/-! ### Diagnostics of a module -/

/-- The diagnostic is made of the module, after others. -/
inductive Concerns (before : List (Module M)) (m : Module M) : Diagnostic → Prop
  | reserved (h : m.ns ∈ Namespace.reserved) :
      Concerns before m ⟨m.name, "*", .reservedNamespace m.ns⟩
  | found {c : Callable M} {f : Finding} (hc : c ∈ m.callables) (hf : f ∈ c.findings) :
      Concerns before m ⟨m.name, c.identity.text, f⟩
  | clash {n : ExpandedName} {m' : Module M} (hn : n ∈ m.identities) (hm' : m' ∈ before)
      (hn' : n ∈ m'.identities) : Concerns before m ⟨m.name, n.text, .clash m'.name⟩

theorem Concerns.moduleName (h : Concerns before m d) : d.moduleName = m.name := by
  cases h <;> rfl

theorem concerns_of_mem_diagnostics (h : d ∈ m.diagnostics) : Concerns before m d := by
  rcases List.mem_append.1 h with h | h
  · split at h
    case isTrue hreserved =>
      obtain rfl := List.mem_singleton.1 h
      exact .reserved hreserved
    case isFalse => cases h
  · obtain ⟨c, hc, h⟩ := List.mem_flatMap.1 h
    obtain ⟨f, hf, rfl⟩ := List.mem_map.1 h
    exact .found hc hf

/-- Each record is of a name of one of the modules, with the name of the module. -/
def Owned (provided : Provided) (before : List (Module M)) : Prop :=
  ∀ n owner, (n, owner) ∈ provided → ∃ m ∈ before, n ∈ m.identities ∧ m.name = owner

theorem Owned.append (h : Owned provided before) (hm : IsTidy m) :
    Owned (m.identities.foldl (claim m.name) ([], provided)).2 (before ++ [m]) := by
  rw [foldl_claim hm.nodup]
  intro n owner hn
  rcases List.mem_append.1 hn with hn | hn
  · obtain ⟨m', hm', hrecord⟩ := h n owner hn
    exact ⟨m', List.mem_append_left _ hm', hrecord⟩
  · obtain ⟨k, hk, heq⟩ := List.mem_map.1 hn
    obtain ⟨rfl, rfl⟩ := Prod.mk.inj heq
    exact ⟨m, List.mem_append_right _ List.mem_cons_self, (List.mem_filter.1 hk).1, rfl⟩

theorem Owned.concerns (h : Owned provided before) (hm : IsTidy m)
    (hd : d ∈ (m.identities.foldl (claim m.name) ([], provided)).1) : Concerns before m d := by
  rw [foldl_claim hm.nodup, List.nil_append] at hd
  obtain ⟨n, hn, hclash⟩ := List.mem_filterMap.1 hd
  obtain ⟨owner, howner, rfl⟩ := Option.map_eq_some_iff.1 hclash
  obtain ⟨earlier, later, rfl, -⟩ := List.lookup_eq_some_iff.1 howner
  obtain ⟨m', hm', hn', rfl⟩ := h n owner (by simp)
  exact .clash hn hm' hn'

/-! ### The first diagnostic that counts -/

theorem diagnosticsFrom_singleton (provided : Provided) (m : Module M) :
    diagnosticsFrom provided [m] =
      m.diagnostics ++ (m.identities.foldl (claim m.name) ([], provided)).1 := by
  simp [diagnosticsFrom]

theorem exists_of_find?_diagnosticsFrom (hp : Owned provided before)
    (hms : ∀ m ∈ modules, IsTidy m)
    (h : (diagnosticsFrom provided modules).find? (isFatal options) = some d) :
    ∃ between m after, modules = between ++ m :: after ∧
      (diagnosticsFrom provided between).find? (isFatal options) = none ∧
      (diagnosticsFrom provided (between ++ [m])).find? (isFatal options) = some d ∧
      Concerns (before ++ between) m d := by
  induction modules generalizing provided before with
  | nil => cases h
  | cons m ms ih =>
    obtain ⟨hm, hms⟩ := List.forall_mem_cons.1 hms
    rw [diagnosticsFrom, List.find?_append, Option.or_eq_some_iff] at h
    rcases h with h | ⟨hnone, h⟩
    · refine ⟨[], m, ms, rfl, rfl, ?_, ?_⟩
      · rw [List.nil_append, diagnosticsFrom_singleton, h]
      · rw [List.append_nil]
        rcases List.mem_append.1 (List.mem_of_find?_eq_some h) with hd | hd
        · exact concerns_of_mem_diagnostics hd
        · exact hp.concerns hm hd
    · obtain ⟨between, m', after, rfl, hquiet, hfirst, hconcerns⟩ := ih (hp.append hm) hms h
      refine ⟨m :: between, m', after, rfl, ?_, ?_, ?_⟩
      · rw [diagnosticsFrom, List.find?_append, hnone, hquiet]
        rfl
      · rw [List.cons_append, diagnosticsFrom, List.find?_append, hnone, hfirst]
        rfl
      · rwa [List.append_assoc] at hconcerns

/-! ### Plans -/

/-- The module that a batch is refused for: the modules before it have no diagnostic that counts, and
with it the first is this one, which is made of it. -/
structure FailsAt (options : LoadOptions) (before : List (Module M)) (m : Module M)
    (d : Diagnostic) : Prop where
  quiet : (diagnostics before).find? (isFatal options) = none
  fatal : (diagnostics (before ++ [m])).find? (isFatal options) = some d
  concerns : Concerns before m d

/-- The plan of a name is that of the first module of the name. -/
theorem planOf?_of_mem (h : m ∈ modules) :
    ∃ first, modules.find? (fun m' => m'.name = m.name) = some first ∧
      planOf? modules m.name = some first.plan := by
  cases hfirst : modules.find? (fun m' => m'.name = m.name) with
  | none => exact absurd (decide_eq_true rfl) (List.find?_eq_none.1 hfirst m h)
  | some first => exact ⟨first, rfl, by rw [planOf?, hfirst]; rfl⟩

theorem find?_name_of_forall_ne {after : List (Module M)} (h : ∀ m' ∈ before, m'.name ≠ m.name) :
    (before ++ m :: after).find? (fun m' => m'.name = m.name) = some m := by
  have hnone : before.find? (fun m' => m'.name = m.name) = none := by
    simpa [List.find?_eq_none] using h
  rw [List.find?_append, hnone]
  simp

/-- The error of a refused batch is that of the module that it fails at, but for the plan, which is
that of the first module so named. It is the plan of the module if no earlier one has its name. -/
theorem plan_of_compile {drafts : List (ModuleDraft M)}
    (hbuild : drafts.mapM ModuleDraft.build = .ok modules) {e : BindingError}
    (h : compile modules options = .error e) :
    ∃ before m after d first, modules = before ++ m :: after ∧ FailsAt options before m d ∧
      modules.find? (fun m' => m'.name = m.name) = some first ∧
      e = ⟨m.name, .compilation d.function d.finding.message (some first.plan)⟩ ∧
      ((∀ m' ∈ before, m'.name ≠ m.name) → first = m) := by
  unfold compile at h
  split at h
  case h_2 => cases h
  case h_1 d hd =>
    obtain rfl := Except.error.inj h
    have hstart : Owned [] ([] : List (Module M)) := fun n owner hn => by cases hn
    obtain ⟨before, m, after, rfl, hquiet, hfatal, hconcerns⟩ :=
      exists_of_find?_diagnosticsFrom hstart (isTidy_of_mapM_build hbuild) hd
    have hm : m ∈ before ++ m :: after := List.mem_append_right _ List.mem_cons_self
    obtain ⟨first, hfirst, hplan⟩ := planOf?_of_mem hm
    refine ⟨before, m, after, d, first, rfl, ⟨hquiet, hfatal, hconcerns⟩, hfirst, ?_, ?_⟩
    · rw [hconcerns.moduleName, hplan]
    · intro hnames
      rw [find?_name_of_forall_ne hnames] at hfirst
      exact (Option.some.inj hfirst).symm

/-- Modules that differ in name and namespace. -/
def counting (names : List (String × Option String)) : List (ModuleDraft Unit) :=
  names.map fun (name, ns) => {
    typeName := "Counts"
    initial := ()
    name := name
    ns := ns
    functions := [{ name := "count", native := .ofFunction [] (.base .bool) fun _ => true }] }

theorem plan_of_compile_counting : ∃ modules m function finding,
    (counting [("tally", none), ("census", some Namespace.functions)]).mapM ModuleDraft.build =
        .ok modules ∧ m ∈ modules ∧ m.name = "census" ∧
      compile modules {} = .error ⟨"census", .compilation function finding (some m.plan)⟩ := by
  have hfacts : ((counting [("tally", none), ("census", some Namespace.functions)]).mapM
      ModuleDraft.build).toOption.any (fun modules => decide (modules.map (·.name)).Nodup &&
        match compile modules {} with
        | .ok _ => false
        | .error e => decide (e.moduleName = "census")) = true := by
    decide +kernel
  obtain ⟨modules, hbuild, hfacts⟩ := Outcome.any_toOption_iff.1 hfacts
  obtain ⟨hnodup, hrefused⟩ := Bool.and_eq_true_iff.1 hfacts
  cases hcompile : compile modules {} with
  | ok batch => simp [hcompile] at hrefused
  | error e =>
    rw [hcompile] at hrefused
    obtain ⟨before, m, after, d, first, rfl, -, -, rfl, hplan⟩ := plan_of_compile hbuild hcompile
    have hname : m.name = "census" := of_decide_eq_true hrefused
    have hnames : ∀ m' ∈ before, m'.name ≠ m.name := by
      have hnodup := of_decide_eq_true hnodup
      rw [List.map_append, List.map_cons, List.nodup_append] at hnodup
      exact fun m' hm' => hnodup.2.2 _ (List.mem_map_of_mem hm') _ List.mem_cons_self
    obtain rfl := hplan hnames
    exact ⟨_, first, d.function, d.finding.message, hbuild, by simp, hname, by rw [hcompile, hname]⟩

/-- The second of two modules is in a reserved namespace, but its name stands for the plan of the
first. -/
def Misattributes (first second : Module Unit) : Prop :=
  (diagnostics [first]).find? (isFatal {}) = none ∧
    (diagnostics [first, second]).find? (isFatal {}) =
      some ⟨second.name, "*", .reservedNamespace second.ns⟩ ∧
    second.ns ∈ Namespace.reserved ∧ planOf? [first, second] second.name = some first.plan ∧
    first.plan ≠ second.plan

instance (first second : Module Unit) : Decidable (Misattributes first second) := by
  unfold Misattributes
  infer_instance

/-- Of two modules of one name, the second fails the batch, and the error has the plan of the
first. -/
theorem plan_of_namesake : ∃ first second d,
    (counting [("tally", none), ("tally", some Namespace.functions)]).mapM ModuleDraft.build =
        .ok [first, second] ∧ FailsAt {} [first] second d ∧
      compile [first, second] {} =
        .error ⟨second.name, .compilation d.function d.finding.message (some first.plan)⟩ ∧
      first.plan ≠ second.plan := by
  have hfacts : ((counting [("tally", none), ("tally", some Namespace.functions)]).mapM
      ModuleDraft.build).toOption.any (fun modules => decide (modules.length = 2) &&
        modules.head?.any fun first => modules.getLast?.any fun second =>
          decide (Misattributes first second)) = true := by
    decide +kernel
  obtain ⟨modules, hbuild, hfacts⟩ := Outcome.any_toOption_iff.1 hfacts
  obtain ⟨htwo, hfacts⟩ := Bool.and_eq_true_iff.1 hfacts
  obtain ⟨first, second, rfl⟩ := List.length_eq_two.1 (of_decide_eq_true htwo)
  obtain ⟨hquiet, hfatal, hreserved, hplan, hne⟩ : Misattributes first second :=
    of_decide_eq_true hfacts
  refine ⟨first, second, _, hbuild, ⟨hquiet, hfatal, .reserved hreserved⟩, ?_, hne⟩
  simp only [compile, hfatal, hplan]

end XPathExtension.Batch
