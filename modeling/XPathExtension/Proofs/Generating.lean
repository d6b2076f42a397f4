import Mathlib.Data.List.Find
import XPathExtension.Generation
import XPathExtension.Proofs.Dispatch

/-!
Generated callables are well formed. Putting the callable of a group together member by member never
fails for a built module and gives one table of overloads for each name, in which the search for a
number of arguments and the look-up of the announced type find the same function, the one registered
under the name with as many parameters, or both find none.
-/

namespace XPathExtension

/-! ### Tables filled at distinct places -/

section Tables

variable {α β : Type} {key : α → Nat} {value : α → β}

/-- Each place of a table has what was put there, or else what it had. -/
theorem getElem?_foldl_set (as : List α) (table : List (Option β)) (i : Nat)
    (hkeys : as.Pairwise fun a b => key a ≠ key b) :
    (as.foldl (fun t a => t.set (key a) (some (value a))) table)[i]? =
      (table[i]?).map fun old => ((as.find? fun a => key a = i).map value).or old := by
  induction as generalizing table with
  | nil => simp
  | cons a as ih =>
    obtain ⟨hfirst, hrest⟩ := List.pairwise_cons.1 hkeys
    rw [List.foldl_cons, ih _ hrest, List.getElem?_set]
    by_cases hi : key a = i
    · have hnone : as.find? (fun b => key b = i) = none := by
        refine List.find?_eq_none.2 fun b hb => ?_
        have hne := hfirst b hb
        simpa [hi, eq_comm] using hne
      by_cases hlt : key a < table.length
      · simp [hi, hnone, hi ▸ hlt]
      · simp [hi, hi ▸ hlt]
    · simp [hi]

end Tables

/-! ### Members one by one -/

namespace Callable

variable {M : Type} {m : Module M} {g : OverloadSet} {c : Callable M}

/-- What a callable has after taking in functions one after the other. -/
theorem foldl_withFunction (fs : List (DescribedFunction M)) (c : Callable M) :
    fs.foldl withFunction c =
      { c with
        argumentTypes := (fs.getLast?.map fun f => f.description.parameters.map (·.slot.type)).getD
          c.argumentTypes
        resultTypes := fs.foldl (fun t f => t.set (f.description.arity - c.minArity)
          (some f.description.announced)) c.resultTypes
        hasSideEffects := c.hasSideEffects || fs.any (·.description.sideEffects)
        dispatch := c.dispatch ++ fs.map .ofBound } := by
  induction fs generalizing c with
  | nil => simp
  | cons f fs ih =>
    rw [List.foldl_cons, ih]
    cases fs with
    | nil => simp [withFunction]
    | cons h fs => simp [withFunction, List.getLast?_cons, Bool.or_assoc]

/-- Members that are functions of the module and have places are taken in one after the other. -/
theorem foldlM_addMember {is : List Nat} (hmembers : ∀ i ∈ is, ∃ f, m.functions[i]? = some f)
    (hplaces : ∀ f ∈ is.filterMap fun i => m.functions[i]?, c.HasPlace f.description.arity) :
    is.foldlM (addMember m) c =
      .ok ((is.filterMap fun i => m.functions[i]?).foldl withFunction c) := by
  induction is generalizing c with
  | nil => rfl
  | cons i is ih =>
    obtain ⟨f, hf⟩ := hmembers i List.mem_cons_self
    rw [List.filterMap_cons, hf] at hplaces ⊢
    have hplace : c.HasPlace f.description.arity := hplaces f List.mem_cons_self
    have hstep : addMember m c i = .ok (c.withFunction f) := by
      simp [addMember, hf, hplace]
    rw [List.foldlM_cons, hstep]
    refine ih (fun j hj => hmembers j (List.mem_cons_of_mem i hj)) fun h hh => ?_
    simpa [HasPlace, withFunction] using hplaces h (List.mem_cons_of_mem f hh)

section Group

variable (hg : g.Gathers signatureOf m.functions)
include hg

theorem hasPlace_empty {f : DescribedFunction M} (hf : f ∈ g.select m.functions) :
    (empty m g).HasPlace f.description.arity := by
  have harity : f.description.arity ∈ (ofGroup m g).arities := by
    rw [arities_ofGroup]
    exact List.mem_map_of_mem hf
  obtain ⟨hmin, hmax⟩ := range_ofGroup hg harity
  refine ⟨hmin, ?_⟩
  simp only [empty, List.length_replicate]
  omega

/-- The table filled by the members is the one that looks for a member of each arity. -/
theorem resultTypes_assembled :
    (g.select m.functions).foldl (fun t f => t.set (f.description.arity - g.minArity)
        (some f.description.announced)) (List.replicate (g.maxArity - g.minArity + 1) none) =
      (ofGroup m g).resultTypes := by
  have hmin (f : DescribedFunction M) (hf : f ∈ g.select m.functions) :
      g.minArity ≤ f.description.arity :=
    (hasPlace_empty hg hf).1
  -- places are differences to the least arity, and distinct only because no arity is below it
  have hkeys : (g.select m.functions).Pairwise fun f h =>
      f.description.arity - g.minArity ≠ h.description.arity - g.minArity := by
    refine hg.ascending.imp_of_mem fun {f h} hf hh hlt => ?_
    have hle := hmin f hf
    change f.description.arity < h.description.arity at hlt
    omega
  ext1 i
  rw [getElem?_foldl_set _ _ _ hkeys, List.getElem?_replicate]
  simp only [ofGroup, List.getElem?_map]
  by_cases hi : i < g.maxArity - g.minArity + 1
  · have hfind : ((g.select m.functions).find? fun f =>
        decide (f.description.arity - g.minArity = i)) =
        (g.select m.functions).find? fun f => decide (f.description.arity = g.minArity + i) := by
      refine List.find?_congr fun f hf => ?_
      have hle := hmin f hf
      exact decide_eq_decide.2 (by omega)
    rw [if_pos hi, List.getElem?_range hi, Option.map_some, Option.map_some, Option.or_none, hfind,
      List.find?_map, Option.map_map]
    rfl
  · rw [if_neg hi, List.getElem?_eq_none (by simpa using hi)]
    rfl

/-- Putting a group together succeeds and gives the callable of the group. -/
theorem assemble_eq_ok (hmembers : ∀ i ∈ g.members, ∃ f, m.functions[i]? = some f) :
    assemble m g = .ok (ofGroup m g) := by
  have hfold : g.members.foldlM (addMember m) (empty m g) =
      .ok ((g.select m.functions).foldl withFunction (empty m g)) :=
    foldlM_addMember hmembers fun f hf => hasPlace_empty hg hf
  rw [assemble, hfold, foldl_withFunction, Except.ok.injEq]
  unfold ofGroup
  simp only [empty, Callable.mk.injEq, true_and, and_true, List.nil_append, Bool.false_or]
  refine ⟨?_, resultTypes_assembled hg, ?_⟩
  · rw [List.getLast?_map]
    cases (g.select m.functions).getLast? <;> rfl
  · rw [List.any_map]
    rfl

/-! ### Ends of the tables -/

variable (hne : (ofGroup m g).arities ≠ [])
include hne

theorem head?_arities : (ofGroup m g).arities.head? = some g.minArity := by
  rw [arities_ofGroup] at hne ⊢
  exact hg.head?_arities hne

theorem getLast?_arities : (ofGroup m g).arities.getLast? = some g.maxArity := by
  rw [arities_ofGroup] at hne ⊢
  exact hg.getLast?_arities hne

theorem exists_argumentTypes : ∃ f ∈ m.functions, f.description.name = g.name ∧
    f.description.arity = g.maxArity ∧
    (ofGroup m g).argumentTypes = f.description.parameters.map (·.slot.type) := by
  have hlast := getLast?_arities hg hne
  rw [arities_ofGroup, List.getLast?_map] at hlast
  obtain ⟨f, hf, harity⟩ := Option.map_eq_some_iff.1 hlast
  obtain ⟨hmem, hname⟩ := (mem_select_iff hg).1 (List.mem_of_getLast? hf)
  refine ⟨f, hmem, hname, harity, ?_⟩
  simp [ofGroup, List.getLast?_map, hf]

end Group

end Callable

/-! ### Modules -/

namespace OverloadSet

variable {α : Type} {sig : α → Signature} {functions : List α}

theorem exists_of_mem_members {groups : List OverloadSet}
    (h : ofSignatures (functions.map sig) = .ok groups) {g : OverloadSet} (hg : g ∈ groups)
    {i : Nat} (hi : i ∈ g.members) : ∃ f, functions[i]? = some f :=
  (((members_of_ofSignatures h hg).2 i).1 hi).imp fun _ hf => hf.1

end OverloadSet

theorem Module.generate_eq_ok {M : Type} {m : Module M} (hm : m.IsGrouped) :
    m.generate = .ok m.callables := by
  refine Outcome.mapM_eq_ok_iff.2 (List.forall₂_map_right_iff.2 ?_)
  refine List.forall₂_same.2 fun g hg => ?_
  exact Callable.assemble_eq_ok ((OverloadSet.gathers_of_ofSignatures hm).2 g hg)
    fun i hi => OverloadSet.exists_of_mem_members hm hg hi

/-! ### Drafts -/

/-- The names of the functions, each once, in the order in which they first occur. -/
def ModuleDraft.functionNames {M : Type} (m : ModuleDraft M) : List ExpandedName :=
  (m.functions.map fun f => ExpandedName.inNamespace m.functionNamespace f.name).eraseDups

/-- The draft registers `f` under a name with so many parameters, and describes it as `g`. -/
structure ModuleDraft.Binds {M : Type} (m : ModuleDraft M) (name : ExpandedName) (n : Nat)
    (f : FunctionDraft M) (g : DescribedFunction M) : Prop where
  registered : f ∈ m.functions
  name : .inNamespace m.functionNamespace f.name = name
  arity : f.native.parameters.length = n
  described : m.describe m.functionNamespace f = .ok g

/-- What a callable is for the functions that a draft registers under its name. -/
structure Callable.Presents {M : Type} (c : Callable M) (m : ModuleDraft M) : Prop where
  ascending : c.arities.Pairwise (· < ·)
  first : c.arities.head? = some c.minArity
  last : c.arities.getLast? = some c.maxArity
  /-- Each overload is that of the function with its arity, with as many conversions. -/
  overloads : ∀ o ∈ c.dispatch, o.inputs.length = o.arity ∧
    ∃ f g, m.Binds c.identity o.arity f g ∧ o = .ofBound g
  argumentCount : c.argumentTypes.length = c.maxArity
  /-- The declared types are those of the function with the most parameters. -/
  argumentTypes : ∃ f g, m.Binds c.identity c.maxArity f g ∧
    c.argumentTypes = g.description.parameters.map (·.slot.type)
  resultCount : c.resultTypes.length = c.maxArity - c.minArity + 1
  sideEffects : c.hasSideEffects = true ↔
    ∃ n f g, m.Binds c.identity n f g ∧ f.overrides.sideEffects = true
  /-- A number of arguments has an overload where a function with as many parameters is. -/
  found : ∀ n, (∃ o, c.overload? n = some o) ↔ ∃ f g, m.Binds c.identity n f g
  /-- A number of arguments has a result type where a function with as many parameters is. -/
  announced : ∀ n, (∃ t, c.resultType n = .ok t) ↔ ∃ f g, m.Binds c.identity n f g
  /-- What is found is the overload of that function, and what is announced is its type. -/
  selected : ∀ n f g, m.Binds c.identity n f g →
    c.overload? n = some (.ofBound g) ∧ c.resultType n = .ok g.description.announced

namespace ModuleDraft

variable {M : Type} {m : ModuleDraft M} {b : Module M} {c : Callable M} {name : ExpandedName}
  {n : Nat} {f : FunctionDraft M} {g : DescribedFunction M}

theorem Binds.mem_functions (hb : m.Builds b) (h : m.Binds name n f g) :
    g ∈ b.functions ∧ g.description.name = name ∧ g.description.arity = n := by
  obtain ⟨g', hg', hdescribe⟩ := Outcome.exists_of_mem_left hb.functions h.registered
  obtain rfl := Except.ok.inj (h.described.symm.trans hdescribe)
  have hdescribes := describes_of_describe hdescribe
  exact ⟨hg', hdescribes.name.trans h.name, hdescribes.arity.trans h.arity⟩

theorem exists_binds (hb : m.Builds b) (hg : g ∈ b.functions) :
    ∃ f, m.Binds g.description.name g.description.arity f g := by
  obtain ⟨f, hf, hdescribe⟩ := Outcome.exists_of_mem_right hb.functions hg
  have hdescribes := describes_of_describe hdescribe
  exact ⟨f, hf, hdescribes.name.symm, hdescribes.arity.symm, hdescribe⟩

/-- The functions of a built module under a name are those that the draft registers. -/
theorem exists_binds_and_iff (hb : m.Builds b) {P : DescribedFunction M → Prop} :
    (∃ f g, m.Binds name n f g ∧ P g) ↔
      ∃ g ∈ b.functions, g.description.name = name ∧ g.description.arity = n ∧ P g := by
  constructor
  · rintro ⟨f, g, h, hP⟩
    obtain ⟨hmem, hname, harity⟩ := h.mem_functions hb
    exact ⟨g, hmem, hname, harity, hP⟩
  · rintro ⟨g, hg, rfl, rfl, hP⟩
    obtain ⟨f, hf⟩ := exists_binds hb hg
    exact ⟨f, g, hf, hP⟩

theorem exists_binds_iff (hb : m.Builds b) : (∃ f g, m.Binds name n f g) ↔
    ∃ g ∈ b.functions, g.description.name = name ∧ g.description.arity = n := by
  simpa using exists_binds_and_iff hb (P := fun _ => True)

theorem presents_of_mem (hb : m.Builds b) (hc : c ∈ b.callables) : c.Presents m := by
  have hm := hb.isGrouped
  have hfound (n : Nat) : (∃ o, c.overload? n = some o) ↔ ∃ f g, m.Binds c.identity n f g := by
    simp only [Module.overload?_eq_some_iff hm hc]
    rw [exists_binds_iff hb]
    exact ⟨fun ⟨o, g, hg, hname, harity, _⟩ => ⟨g, hg, hname, harity⟩,
      fun ⟨g, hg, hname, harity⟩ => ⟨_, g, hg, hname, harity, rfl⟩⟩
  have hannounced (n : Nat) : (∃ t, c.resultType n = .ok t) ↔
      ∃ f g, m.Binds c.identity n f g := by
    simp only [Module.resultType_eq_ok_iff hm hc]
    rw [exists_binds_iff hb]
    exact ⟨fun ⟨o, g, hg, hname, harity, _⟩ => ⟨g, hg, hname, harity⟩,
      fun ⟨g, hg, hname, harity⟩ => ⟨_, g, hg, hname, harity, rfl⟩⟩
  have hselected (n : Nat) (f : FunctionDraft M) (g : DescribedFunction M)
      (h : m.Binds c.identity n f g) :
      c.overload? n = some (.ofBound g) ∧ c.resultType n = .ok g.description.announced := by
    obtain ⟨hg, hname, harity⟩ := h.mem_functions hb
    exact ⟨(Module.overload?_eq_some_iff hm hc).2 ⟨g, hg, hname, harity, rfl⟩,
      (Module.resultType_eq_ok_iff hm hc).2 ⟨g, hg, hname, harity, rfl⟩⟩
  obtain ⟨f₀, hf₀, hname₀⟩ := Module.exists_function hm hc
  obtain ⟨group, hgroup, rfl⟩ := Module.exists_group hm hc
  have hne : (Callable.ofGroup b group).arities ≠ [] :=
    List.ne_nil_of_mem ((Callable.mem_arities_iff hgroup).2 ⟨f₀, hf₀, hname₀, rfl⟩)
  have hlast := Callable.exists_argumentTypes hgroup hne
  constructor
  case ascending => exact Callable.ascending_arities hgroup
  case first => exact Callable.head?_arities hgroup hne
  case last => exact Callable.getLast?_arities hgroup hne
  case overloads =>
    intro o ho
    obtain ⟨g, hg, rfl⟩ := List.mem_map.1 ho
    obtain ⟨hmem, hname⟩ := (Callable.mem_select_iff hgroup).1 hg
    refine ⟨List.length_map _, (exists_binds_and_iff hb).2 ⟨g, hmem, hname, rfl, rfl⟩⟩
  case argumentCount =>
    obtain ⟨g, -, -, harity, htypes⟩ := hlast
    rw [htypes, List.length_map]
    exact harity
  case argumentTypes => exact (exists_binds_and_iff hb).2 hlast
  case resultCount => simp [Callable.ofGroup]
  case sideEffects =>
    have hany : (Callable.ofGroup b group).hasSideEffects = true ↔
        ∃ g ∈ group.select b.functions, g.description.sideEffects = true := by
      simp [Callable.ofGroup]
    rw [hany]
    constructor
    · rintro ⟨g, hg, heffects⟩
      obtain ⟨hmem, hname⟩ := (Callable.mem_select_iff hgroup).1 hg
      obtain ⟨f, g', hbinds, rfl⟩ := (exists_binds_and_iff hb).2 ⟨g, hmem, hname, rfl, rfl⟩
      exact ⟨_, f, g, hbinds, (sideEffects_of_describe hbinds.described).symm.trans heffects⟩
    · rintro ⟨n, f, g, hbinds, heffects⟩
      obtain ⟨hmem, hname, -⟩ := hbinds.mem_functions hb
      exact ⟨g, (Callable.mem_select_iff hgroup).2 ⟨hmem, hname⟩,
        (sideEffects_of_describe hbinds.described).trans heffects⟩
  case found => exact hfound
  case announced => exact hannounced
  case selected => exact hselected

theorem identities_callables (hb : m.Builds b) :
    b.callables.map (·.identity) = m.functionNames := by
  have hpairs : List.Forall₂ Eq (b.functions.map (·.description.name))
      (m.functions.map fun f => ExpandedName.inNamespace m.functionNamespace f.name) := by
    rw [List.forall₂_map_left_iff, List.forall₂_map_right_iff]
    exact hb.functions.flip.imp fun g f hdescribe => (describes_of_describe hdescribe).name
  rw [List.forall₂_eq_eq_eq] at hpairs
  rw [Module.identities_callables hb.isGrouped, hpairs, functionNames]

theorem nodup_functionNames (m : ModuleDraft M) : m.functionNames.Nodup := nodup_eraseDups _

/-- A built module has one callable for each name under which functions are registered, in the order
in which the names first occur, and each of them presents the functions of its name. -/
theorem generate_of_build (h : m.build = .ok b) :
    ∃ cs, b.generate = .ok cs ∧ cs.map (·.identity) = m.functionNames ∧
      (cs.map (·.identity)).Nodup ∧ ∀ c ∈ cs, c.Presents m := by
  have hb := builds_of_build h
  have hnames := identities_callables hb
  refine ⟨b.callables, Module.generate_eq_ok hb.isGrouped, hnames, ?_, fun c hc => ?_⟩
  · rw [hnames]
    exact m.nodup_functionNames
  · exact presents_of_mem hb hc

/-- A module with functions of three and of one argument under one name, and one between them. -/
def scattered : ModuleDraft Unit where
  typeName := "Sums"
  initial := ()
  name := "sums"
  functions := [("sum", 3), ("zero", 0), ("sum", 1)].map fun f => {
    name := f.1
    native := .ofFunction (List.replicate f.2 (.base .bool)) (.base .bool) fun _ => true }

theorem generate_of_build_scattered :
    ∃ b cs, scattered.build = .ok b ∧ b.generate = .ok cs ∧
      cs.map (·.identity.localName) = ["sum", "zero"] ∧ ∀ c ∈ cs, c.Presents scattered := by
  have hbuilds : scattered.build.toOption.isSome = true := by decide +kernel
  cases hbuild : scattered.build with
  | error e =>
    rw [hbuild] at hbuilds
    cases hbuilds
  | ok b =>
    obtain ⟨cs, hgenerate, hnames, -, hpresents⟩ := generate_of_build hbuild
    have hlocal : cs.map (·.identity.localName) = ["sum", "zero"] := by
      change cs.map ((·.localName) ∘ (·.identity)) = _
      rw [← List.map_map, hnames]
      decide +kernel
    exact ⟨b, cs, rfl, hgenerate, hlocal, hpresents⟩

end ModuleDraft

end XPathExtension
