import XPathExtension.Proofs.Building
import XPathExtension.Proofs.Checks
import XPathExtension.Proofs.NativeTyping
import XPathExtension.Proofs.Partition

/-!
Validity of drafts. A draft is checked in a fixed order: its name, its dependencies, its namespace,
then its functions in the order of registration, each with its name, its kind, its overrides, its
parameters and its result, and at last its overloads. It becomes a module, with a description for
each function in their order, if no check fails; otherwise the first that fails is reported.
-/

namespace XPathExtension

/-- Something is declared for the parameter at the index. -/
def Overrides.Addresses (o : Overrides) (index : Nat) : Prop :=
  (o.parameter? index).isSome = true ∨ (o.name? index).isSome = true

theorem Overrides.addresses_iff {o : Overrides} {i : Nat} :
    o.Addresses i ↔ i ∈ (o.parameters ++ o.names).map (·.1) := by
  have hlookup (entries : List (Nat × String)) :
      (entries.lookup i).isSome = true ↔ i ∈ entries.map (·.1) := by
    rw [List.lookup_isSome_iff, List.mem_map]
    exact exists_congr fun p => and_congr_right fun _ => beq_iff_eq.trans eq_comm
  simp only [Addresses, parameter?, name?, hlookup, List.map_append, List.mem_append]

/-- The last of the parameters for which something is declared. -/
def Overrides.IsLast (o : Overrides) (index : Nat) : Prop :=
  o.Addresses index ∧ ∀ i, o.Addresses i → i ≤ index

theorem Overrides.greatestIndex?_eq_some_iff {o : Overrides} {i : Nat} :
    o.greatestIndex? = some i ↔ o.IsLast i := by
  simp only [IsLast, addresses_iff, greatestIndex?, List.max?_eq_some_iff]

theorem Overrides.exists_isLast {o : Overrides} {i : Nat} (h : o.Addresses i) :
    ∃ j, o.IsLast j := by
  cases hlast : o.greatestIndex? with
  | none =>
    rw [addresses_iff, List.max?_eq_none_iff.1 hlast] at h
    cases h
  | some j => exact ⟨j, greatestIndex?_eq_some_iff.1 hlast⟩

namespace OverloadSet

variable {α : Type} {sig : α → Signature} {functions : List α} {r r' : RepeatedArity}

theorem Blames.unique (h : Blames sig functions r) (h' : Blames sig functions r') : r = r' := by
  obtain ⟨⟨j, hj, hfirst⟩, hname⟩ := h
  obtain ⟨⟨j', hj', hfirst'⟩, hname'⟩ := h'
  have hnames : r.name = r'.name :=
    (List.idxOf_inj hj.mem_names).1 (Nat.le_antisymm (hname _ _ hj') (hname' _ _ hj))
  rw [hnames] at hj hfirst
  obtain rfl : j = j' := Nat.le_antisymm (hfirst _ _ hj') (hfirst' _ _ hj)
  have harities : r.arity = r'.arity :=
    congrArg Signature.arity (Option.some.inj (hj.1.symm.trans hj'.1))
  cases r
  cases r'
  exact congrArg₂ RepeatedArity.mk hnames harities

end OverloadSet

namespace ModuleDraft

variable {M : Type}

/-- What is checked of a draft. -/
inductive Check (M : Type) where
  | moduleName
  | dependencies
  | ns
  | name (f : FunctionDraft M)
  | method (f : FunctionDraft M)
  | overrides (f : FunctionDraft M)
  | parameter (f : FunctionDraft M) (index : Nat)
  | result (f : FunctionDraft M)
  | overloads

/-- The checks of a function, in order. -/
def Check.ofFunction (f : FunctionDraft M) : List (Check M) :=
  [name f] ++ ([method f] ++ ([overrides f] ++
    ((List.range f.native.parameters.length).map (parameter f) ++ [result f])))

variable (m : ModuleDraft M)

/-- All checks, in order. -/
def checks : List (Check M) :=
  [.moduleName] ++ ([.dependencies] ++ ([.ns] ++
    (m.functions.flatMap Check.ofFunction ++ [.overloads])))

/-- The name and the number of parameters of a function that is registered. -/
def signature (f : FunctionDraft M) : Signature :=
  ⟨.inNamespace m.functionNamespace f.name, f.native.parameters.length⟩

/-- The check fails with the fault. -/
def Fails : Check M → BindingFault → Prop
  | .moduleName, x => Name.isNCName m.name.toList = false ∧ x = .invalidName m.name
  | .dependencies, x => m.isStatic = true ∧ ∃ d ds, m.dependencies = d :: ds ∧
      x = .signature d.property .staticDependency
  | .ns, x => ∃ u reason, m.ns = some u ∧ Uri.fault? u = some reason ∧
      x = .invalidNamespace u reason
  | .name f, x => Name.isNCName f.name.toList = false ∧ x = .invalidName f.name
  | .method f, x => (m.isStatic = true ∧ f.native.isMethod = true) ∧
      x = .signature f.name .staticMethod
  | .overrides f, x => ∃ i, f.overrides.IsLast i ∧ f.native.parameters.length ≤ i ∧
      x = .signature f.name (.noSuchParameter i f.native.parameters.length)
  | .parameter f i, x => ∃ t e, f.native.parameters[i]? = some t ∧
      SequenceType.infer t.describe (f.overrides.parameter? i) m.bindings = .error e ∧
      x = .typeInference f.name (.parameter i) e
  | .result f, x =>
    (∃ e, SequenceType.infer f.native.result.describe f.overrides.result m.bindings = .error e ∧
        x = .typeInference f.name .result e) ∨
      (SequenceType.infer f.native.result.describe f.overrides.result m.bindings = .ok .empty ∧
        f.native.result ≠ .unit ∧
        x = .typeInference f.name .result
          (.incompatible (f.overrides.result.getD "empty-sequence()")
            f.native.result.describe.name .emptyResult))
  | .overloads, x => ∃ r : RepeatedArity, OverloadSet.Blames m.signature m.functions r ∧
      x = .ambiguousOverload r.name r.arity

/-- What makes a function one of the module. -/
structure Admits (f : FunctionDraft M) : Prop where
  name : Name.isNCName f.name.toList = true
  method : m.isStatic = true → f.native.isMethod = false
  overrides : ∀ i, f.overrides.Addresses i → i < f.native.parameters.length
  parameters : ∀ i t, f.native.parameters[i]? = some t →
    ∃ type, SequenceType.infer t.describe (f.overrides.parameter? i) m.bindings = .ok type
  result : ∃ type,
    SequenceType.infer f.native.result.describe f.overrides.result m.bindings = .ok type ∧
      (type = .empty → f.native.result = .unit)

/-- What makes a draft a module. -/
structure Valid : Prop where
  name : Name.isNCName m.name.toList = true
  dependencies : m.isStatic = true → m.dependencies = []
  ns : ∀ u, m.ns = some u → Uri.fault? u = none
  functions : ∀ f ∈ m.functions, m.Admits f
  distinct : m.functions.Pairwise fun f g =>
    ¬ (f.name = g.name ∧ f.native.parameters.length = g.native.parameters.length)

/-! ### Each step is decided by its checks -/

/-- The outcome is decided by checks of the draft. -/
abbrev Decided {α : Type} (cs : List (Check M)) (r : Except BindingError α) : Prop :=
  Decides m.Fails (BindingError.mk m.name) cs r

variable {m} {f : FunctionDraft M}

theorem decided_checkName {c : Check M} {name : String}
    (h : ∀ x, m.Fails c x ↔ Name.isNCName name.toList = false ∧ x = .invalidName name) :
    m.Decided [c] (m.checkName name) := by
  unfold checkName
  split
  case isTrue hname => exact .pass (by simp [h, hname]) ()
  case isFalse hname => exact .fail (by simp [h, hname])

theorem decided_checkMethod : m.Decided [.method f] (m.checkMethod f) := by
  unfold checkMethod
  split
  case isTrue h =>
    rw [Bool.and_eq_true] at h
    exact .fail (by simp [Fails, h])
  case isFalse h =>
    rw [Bool.and_eq_true] at h
    exact .pass (by simp [Fails, h]) ()

theorem decided_checkDependencies : m.Decided [.dependencies] m.checkDependencies := by
  unfold checkDependencies
  split
  case h_1 h => exact .pass (by simp [Fails, h]) ()
  case h_2 d ds h =>
    split
    case isTrue hs => exact .fail (by simp [Fails, h, hs])
    case isFalse hs => exact .pass (by simp [Fails, hs]) ()

theorem decided_resolveNamespace : m.Decided [.ns] m.resolveNamespace := by
  unfold resolveNamespace
  cases hns : m.ns with
  | none => exact .pass (by simp [Fails, hns]) _
  | some u =>
    dsimp only
    cases hu : Uri.fault? u with
    | none => exact .pass (by simp [Fails, hns, hu]) _
    | some reason => exact .fail (by simp [Fails, hns, hu])

theorem decided_checkOverrides : m.Decided [.overrides f] (m.checkOverrides f) := by
  unfold checkOverrides
  cases hi : f.overrides.greatestIndex? with
  | none => exact .pass (by simp [Fails, ← Overrides.greatestIndex?_eq_some_iff, hi]) ()
  | some i =>
    dsimp only
    split
    case isTrue h =>
      exact .fail (by simp [Fails, ← Overrides.greatestIndex?_eq_some_iff, hi, h])
    case isFalse h =>
      exact .pass (by simp [Fails, ← Overrides.greatestIndex?_eq_some_iff, hi, h]) ()

theorem decided_inferParameter {i : Nat} {t : HostType}
    (ht : f.native.parameters[i]? = some t) :
    m.Decided [.parameter f i] (m.inferParameter f i t) := by
  refine Decides.map ?_ _
  unfold inferSlot
  cases h : SequenceType.infer t.describe (f.overrides.parameter? i) m.bindings with
  | ok type => exact .pass (by simp [Fails, ht, h]) _
  | error e => exact .fail (by simp [Fails, ht, h])

theorem decided_parameters : m.Decided ((List.range f.native.parameters.length).map (.parameter f))
    (f.native.parameters.zipIdx.mapM fun (t, i) => m.inferParameter f i t) := by
  have hchecks : (List.range f.native.parameters.length).map (Check.parameter f) =
      f.native.parameters.zipIdx.flatMap fun p => [.parameter f p.2] := by
    rw [List.range_eq_range', ← List.zipIdx_map_snd, List.map_map, List.map_eq_flatMap]
    rfl
  rw [hchecks]
  refine Decides.mapM fun p hp => decided_inferParameter ?_
  exact List.mem_zipIdx_iff_getElem?.1 hp

theorem isUnit_describe_iff {t : HostType} : t.describe.isUnit = true ↔ t = .unit := by
  cases t with
  | base t => simp [HostType.describe, NativeType.isUnit, BaseType.describe, t.shape_ne_unit]
  | _ => simp [HostType.describe, NativeType.isUnit]

theorem decided_inferResult : m.Decided [.result f] (m.inferResult f) := by
  cases h : SequenceType.infer f.native.result.describe f.overrides.result m.bindings with
  | error e =>
    have hrun : m.inferResult f = m.fault (.typeInference f.name .result e) := by
      rw [inferResult, inferSlot, h]
      rfl
    rw [hrun]
    exact .fail (by simp [Fails, h])
  | ok type =>
    have hrun : m.inferResult f = if type = .empty ∧ f.native.result ≠ .unit then
        m.fault (.typeInference f.name .result
          (.incompatible (f.overrides.result.getD "empty-sequence()")
            f.native.result.describe.name .emptyResult))
        else .ok ⟨type, f.native.result.describe⟩ := by
      rw [inferResult, inferSlot, h]
      simp only [ne_eq, ← isUnit_describe_iff, Bool.not_eq_true]
      rfl
    rw [hrun]
    split
    case isTrue hempty =>
      obtain ⟨rfl, hu⟩ := hempty
      exact .fail (by simp [Fails, h, hu])
    case isFalse hempty =>
      refine .pass (fun x hx => ?_) _
      rcases hx with ⟨e, he, -⟩ | ⟨he, hu, -⟩
      · cases h.symm.trans he
      · exact hempty ⟨Except.ok.inj (h.symm.trans he), hu⟩

theorem decided_describe (ns : String) (f : FunctionDraft M) :
    m.Decided (Check.ofFunction f) (m.describe ns f) :=
  (decided_checkName fun _ => Iff.rfl).bind fun _ _ =>
    decided_checkMethod.bind fun _ _ =>
      decided_checkOverrides.bind fun _ _ =>
        decided_parameters.bind fun _ _ => decided_inferResult.map _

/-- Descriptions have the signatures that were registered. -/
theorem signatures_of_describe {functions : List (DescribedFunction M)}
    (h : m.functions.mapM (m.describe m.functionNamespace) = .ok functions) :
    m.functions.map m.signature = functions.map Callable.signatureOf := by
  rw [← List.forall₂_eq_eq_eq, List.forall₂_map_left_iff, List.forall₂_map_right_iff]
  refine (Outcome.mapM_eq_ok_iff.1 h).imp fun f g hg => ?_
  have hdescribes := describes_of_describe hg
  rw [signature, Callable.signatureOf, FunctionDescription.signature, hdescribes.name,
    hdescribes.arity]

theorem decided_group {functions : List (DescribedFunction M)}
    (h : m.functions.map m.signature = functions.map Callable.signatureOf) :
    m.Decided [.overloads] (m.group functions) := by
  unfold group
  rw [← h]
  cases hr : OverloadSet.ofSignatures (m.functions.map m.signature) with
  | ok groups =>
    refine .pass (fun x hx => ?_) _
    obtain ⟨r, hblames, -⟩ := hx
    exact hblames.not_nodup (OverloadSet.nodup_of_ofSignatures hr)
  | error r =>
    have hblames := OverloadSet.blames_of_ofSignatures hr
    refine .fail fun x => ⟨?_, fun hx => ⟨r, hblames, hx⟩⟩
    rintro ⟨r', hr', rfl⟩
    rw [hr'.unique hblames]

theorem decided_build : m.Decided m.checks m.build := by
  refine (decided_checkName fun _ => Iff.rfl).bind fun _ _ =>
    decided_checkDependencies.bind fun _ _ => decided_resolveNamespace.bind fun ns hns =>
      Decides.bind (.mapM fun f _ => decided_describe ns f) fun functions hfunctions => ?_
  obtain rfl := resolveNamespace_eq_ok hns
  exact (decided_group (signatures_of_describe hfunctions)).map _

/-! ### No check fails if and only if the draft is valid -/

theorem passes_overrides_iff : (∀ x, ¬ m.Fails (.overrides f) x) ↔
    ∀ i, f.overrides.Addresses i → i < f.native.parameters.length := by
  constructor
  · intro h i hi
    obtain ⟨j, hj⟩ := Overrides.exists_isLast hi
    exact Nat.lt_of_le_of_lt (hj.2 i hi) (Nat.lt_of_not_le fun hle => h _ ⟨j, hj, hle, rfl⟩)
  · rintro h x ⟨i, hi, hle, -⟩
    exact absurd (h i hi.1) (Nat.not_lt_of_le hle)

theorem passes_parameter_iff {i : Nat} {t : HostType} (ht : f.native.parameters[i]? = some t) :
    (∀ x, ¬ m.Fails (.parameter f i) x) ↔ ∃ type,
      SequenceType.infer t.describe (f.overrides.parameter? i) m.bindings = .ok type := by
  cases h : SequenceType.infer t.describe (f.overrides.parameter? i) m.bindings <;>
    simp [Fails, ht, h]

theorem passes_result_iff : (∀ x, ¬ m.Fails (.result f) x) ↔ ∃ type,
    SequenceType.infer f.native.result.describe f.overrides.result m.bindings = .ok type ∧
      (type = .empty → f.native.result = .unit) := by
  cases h : SequenceType.infer f.native.result.describe f.overrides.result m.bindings with
  | error e => simp [Fails, h]
  | ok type =>
    rw [← not_exists]
    simp [Fails, h]

theorem clear_ofFunction_iff : Clear m.Fails (Check.ofFunction f) ↔ m.Admits f := by
  simp only [Check.ofFunction, clear_append_iff, clear_singleton_iff, List.map_eq_flatMap,
    clear_flatMap_iff, List.mem_range, passes_overrides_iff, passes_result_iff]
  have hname : (∀ x, ¬ m.Fails (.name f) x) ↔ Name.isNCName f.name.toList = true := by
    simp [Fails]
  have hmethod : (∀ x, ¬ m.Fails (.method f) x) ↔
      (m.isStatic = true → f.native.isMethod = false) := by
    rw [← not_exists]
    simp [Fails]
  rw [hname, hmethod]
  constructor
  · rintro ⟨hname, hmethod, hoverrides, hparameters, hresult⟩
    refine ⟨hname, hmethod, hoverrides, fun i t ht => ?_, hresult⟩
    obtain ⟨hi, -⟩ := List.getElem?_eq_some_iff.1 ht
    exact (passes_parameter_iff ht).1 (hparameters i hi)
  · intro h
    refine ⟨h.name, h.method, h.overrides, fun i hi => ?_, h.result⟩
    have ht := List.getElem?_eq_getElem hi
    exact (passes_parameter_iff ht).2 (h.parameters i _ ht)

theorem passes_overloads_iff : (∀ x, ¬ m.Fails .overloads x) ↔
    m.functions.Pairwise fun f g =>
      ¬ (f.name = g.name ∧ f.native.parameters.length = g.native.parameters.length) := by
  have hdistinct : (m.functions.map m.signature).Nodup ↔ m.functions.Pairwise fun f g =>
      ¬ (f.name = g.name ∧ f.native.parameters.length = g.native.parameters.length) := by
    rw [List.Nodup, List.pairwise_map]
    simp [signature, ExpandedName.inNamespace]
  rw [← hdistinct, ← OverloadSet.exists_ofSignatures_iff]
  constructor
  · intro h
    cases hr : OverloadSet.ofSignatures (m.functions.map m.signature) with
    | ok groups => exact ⟨groups, rfl⟩
    | error r =>
      have hblames := OverloadSet.blames_of_ofSignatures hr
      exact absurd ⟨r, hblames, rfl⟩ (h _)
  · rintro ⟨groups, hgroups⟩ x ⟨r, hblames, -⟩
    exact hblames.not_nodup (OverloadSet.nodup_of_ofSignatures hgroups)

theorem clear_checks_iff : Clear m.Fails m.checks ↔ m.Valid := by
  simp only [checks, clear_append_iff, clear_singleton_iff, clear_flatMap_iff,
    clear_ofFunction_iff, passes_overloads_iff]
  have hname : (∀ x, ¬ m.Fails .moduleName x) ↔ Name.isNCName m.name.toList = true := by
    simp [Fails]
  have hdependencies : (∀ x, ¬ m.Fails .dependencies x) ↔
      (m.isStatic = true → m.dependencies = []) := by
    cases h : m.dependencies <;> simp [Fails, h]
  have hns : (∀ x, ¬ m.Fails .ns x) ↔ ∀ u, m.ns = some u → Uri.fault? u = none := by
    rw [← not_exists]
    simp [Fails, Option.eq_none_iff_forall_ne_some, exists_comm]
  rw [hname, hdependencies, hns]
  constructor
  · rintro ⟨hname, hdependencies, hns, hfunctions, hdistinct⟩
    exact ⟨hname, hdependencies, hns, hfunctions, hdistinct⟩
  · intro h
    exact ⟨h.name, h.dependencies, h.ns, h.functions, h.distinct⟩

/-! ### Descriptions -/

/-- The description of a function has what was registered, and in each place the type that is
inferred for it. -/
structure Corresponds (m : ModuleDraft M) (f : FunctionDraft M) (g : DescribedFunction M) :
    Prop where
  native : g.native = f.native
  name : g.description.name = .inNamespace m.functionNamespace f.name
  moduleName : g.description.moduleName = m.name
  sideEffects : g.description.sideEffects = f.overrides.sideEffects
  arity : g.description.parameters.length = f.native.parameters.length
  parameters : ∀ i t p, f.native.parameters[i]? = some t →
    g.description.parameters[i]? = some p →
      p.name = (f.overrides.name? i).getD ("arg" ++ toString (i + 1)) ∧
        SequenceType.infer t.describe (f.overrides.parameter? i) m.bindings = .ok p.slot.type ∧
        p.slot.native = t.describe
  result : SequenceType.infer f.native.result.describe f.overrides.result m.bindings =
    .ok g.description.result.type
  resultNative : g.description.result.native = f.native.result.describe

theorem corresponds_of_describe {g : DescribedFunction M}
    (h : m.describe m.functionNamespace f = .ok g) : m.Corresponds f g := by
  have hdescribes := describes_of_describe h
  obtain ⟨hresult, hnative, -⟩ := inferResult_eq_ok hdescribes.result
  refine ⟨hdescribes.native, hdescribes.name, hdescribes.moduleName, sideEffects_of_describe h,
    hdescribes.arity, fun i t p ht hp => ?_, hresult, hnative⟩
  have hzip : f.native.parameters.zipIdx[i]? = some (t, i) := by simp [ht]
  obtain ⟨p', hp', hinfer⟩ := Outcome.exists_of_getElem?_left hdescribes.parameters hzip
  obtain rfl := Option.some.inj (hp.symm.trans hp')
  exact inferParameter_eq_ok hinfer

/-- A module with a function whose parameter has a declared type, and another function. -/
def stepping (declared other : String) : ModuleDraft Unit where
  typeName := "Stepping"
  initial := ()
  name := "stepping"
  functions := [
    { name := "step"
      native := .ofFunction [.base (.integer .i32)] (.base .bool) fun _ => true
      overrides := ({} : Overrides).withParameter 0 declared },
    { name := other
      native := .ofFunction [] .unit fun _ => () }]

end ModuleDraft

end XPathExtension
