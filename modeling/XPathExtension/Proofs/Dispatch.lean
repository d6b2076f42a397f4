import Mathlib.Data.List.Nodup
import XPathExtension.Callable
import XPathExtension.Proofs.Building

/-!
Dispatch by the number of arguments. The halving search finds a key of an ascending table if it is
there, so that a callable of a module selects exactly the function of its name with as many
parameters as there are arguments, and announces the result type of that function.
-/

namespace XPathExtension

/-! ### Ascending keys -/

section Search

variable {keys : List Nat} {key low high i : Nat}

theorem headD_le_of_ascending (hk : keys.Pairwise (· < ·)) (hkey : key ∈ keys) (d : Nat) :
    keys.headD d ≤ key := by
  cases keys with
  | nil => cases hkey
  | cons k ks =>
    rcases List.mem_cons.1 hkey with rfl | hkey
    · exact Nat.le_refl _
    · exact Nat.le_of_lt ((List.pairwise_cons.1 hk).1 key hkey)

theorem le_getLastD_of_ascending (hk : keys.Pairwise (· < ·)) (hkey : key ∈ keys) (d : Nat) :
    key ≤ keys.getLastD d := by
  induction keys generalizing d with
  | nil => cases hkey
  | cons k ks ih =>
    rw [List.getLastD_cons]
    obtain ⟨hfirst, hrest⟩ := List.pairwise_cons.1 hk
    rcases List.mem_cons.1 hkey with rfl | hkey
    · rcases List.mem_cons.1 (List.getLastD_mem_cons (l := ks) (a := key)) with h | h
      · exact Nat.le_of_eq h.symm
      · exact Nat.le_of_lt (hfirst _ h)
    · exact ih hrest hkey k

theorem range_of_ascending (hk : keys.Pairwise (· < ·)) (hlow : keys.head? = some low)
    (hhigh : keys.getLast? = some high) (hkey : key ∈ keys) : low ≤ key ∧ key ≤ high := by
  have hfirst := headD_le_of_ascending hk hkey 0
  have hlast := le_getLastD_of_ascending hk hkey 0
  rw [List.headD_eq_head?_getD, hlow] at hfirst
  rw [List.getLastD_eq_getLast?, hhigh] at hlast
  exact ⟨hfirst, hlast⟩

theorem headD_mem (h : keys ≠ []) (d : Nat) : keys.headD d ∈ keys := by
  cases keys with
  | nil => exact absurd rfl h
  | cons k ks => simp

theorem getLastD_mem (h : keys ≠ []) (d : Nat) : keys.getLastD d ∈ keys := by
  cases keys with
  | nil => exact absurd rfl h
  | cons k ks =>
    rw [List.getLastD_cons]
    exact List.getLastD_mem_cons

theorem lt_iff_of_ascending (hk : keys.Pairwise (· < ·)) {i j a b : Nat} (hi : keys[i]? = some a)
    (hj : keys[j]? = some b) : i < j ↔ a < b := by
  obtain ⟨hi', rfl⟩ := List.getElem?_eq_some_iff.1 hi
  obtain ⟨hj', rfl⟩ := List.getElem?_eq_some_iff.1 hj
  have hmono := List.pairwise_iff_getElem.1 hk
  constructor
  · exact hmono i j hi' hj'
  · intro hlt
    rcases Nat.lt_trichotomy i j with h | rfl | h
    · exact h
    · omega
    · have := hmono j i hj' hi' h
      omega

theorem getElem?_of_searchBetween (h : searchBetween keys key low high = some i) :
    keys[i]? = some key := by
  fun_induction searchBetween keys key low high with
  | case1 => cases h
  | case2 low high hlow middle hk =>
    obtain rfl := Option.some.inj h
    exact hk
  | case3 low high hlow middle k hk hne hlt ih => exact ih h
  | case4 low high hlow middle k hk hne hge ih => exact ih h
  | case5 => cases h

/-- A key in between is found in an ascending list. -/
theorem searchBetween_eq_some (hk : keys.Pairwise (· < ·)) (hi : keys[i]? = some key)
    (hlow : low ≤ i) (hhigh : i < high) (hlength : high ≤ keys.length) :
    searchBetween keys key low high = some i := by
  fun_induction searchBetween keys key low high with
  | case1 low high hlt middle hnone =>
    have := List.getElem?_eq_none_iff.1 hnone
    omega
  | case2 low high hlt middle hmiddle =>
    have hfirst := lt_iff_of_ascending hk hmiddle hi
    have hsecond := lt_iff_of_ascending hk hi hmiddle
    have : middle = i := by omega
    rw [this]
  | case3 low high hlt middle k hmiddle hne hless ih =>
    have := (lt_iff_of_ascending hk hmiddle hi).2 hless
    exact ih (by omega) hhigh hlength
  | case4 low high hlt middle k hmiddle hne hge ih =>
    have := (lt_iff_of_ascending hk hi hmiddle).2 (by omega)
    exact ih hlow (by omega) (by omega)
  | case5 low high hge => omega

end Search

/-! ### Callables of groups -/

namespace Callable

variable {M : Type} {m : Module M} {g : OverloadSet} {n : Nat}

abbrev signatureOf (f : DescribedFunction M) : Signature := f.description.signature

theorem arities_ofGroup :
    (ofGroup m g).arities = (g.select m.functions).map (·.description.arity) := by
  simp [arities, ofGroup, Function.comp_def, Overload.ofBound]

section Group

variable (hg : g.Gathers signatureOf m.functions)
include hg

theorem mem_select_iff {f : DescribedFunction M} :
    f ∈ g.select m.functions ↔ f ∈ m.functions ∧ f.description.name = g.name := by
  rw [hg.perm.mem_iff]
  simp [FunctionDescription.signature]

theorem ascending_arities : (ofGroup m g).arities.Pairwise (· < ·) := by
  unfold arities
  rw [ofGroup, List.map_map, List.pairwise_map]
  exact hg.ascending

theorem mem_arities_iff :
    n ∈ (ofGroup m g).arities ↔
      ∃ f ∈ m.functions, f.description.name = g.name ∧ f.description.arity = n := by
  rw [arities_ofGroup, List.mem_map]
  simp only [mem_select_iff hg, and_assoc]

theorem overload?_ofGroup {o : Overload M} :
    (ofGroup m g).overload? n = some o ↔
      ∃ f ∈ m.functions, f.description.name = g.name ∧ f.description.arity = n ∧ o = .ofBound f := by
  constructor
  · intro h
    obtain ⟨i, hi, ho⟩ := Option.bind_eq_some_iff.1 h
    have hkey := getElem?_of_searchBetween hi
    rw [arities_ofGroup, List.getElem?_map] at hkey
    obtain ⟨f, hf, rfl⟩ := Option.map_eq_some_iff.1 hkey
    have hmem := (mem_select_iff hg).1 (List.mem_of_getElem? hf)
    refine ⟨f, hmem.1, hmem.2, rfl, ?_⟩
    simpa [ofGroup, hf] using ho.symm
  · rintro ⟨f, hf, hname, rfl, rfl⟩
    obtain ⟨i, hi⟩ := List.mem_iff_getElem?.1 ((mem_select_iff hg).2 ⟨hf, hname⟩)
    have hkey : (ofGroup m g).arities[i]? = some f.description.arity := by
      rw [arities_ofGroup, List.getElem?_map, hi]
      rfl
    have hlt : i < (ofGroup m g).dispatch.length := by
      have := (List.getElem?_eq_some_iff.1 hi).1
      simpa [ofGroup] using this
    refine Option.bind_eq_some_iff.2 ⟨i, ?_, by simp [ofGroup, hi]⟩
    exact searchBetween_eq_some (ascending_arities hg) hkey (Nat.zero_le i) hlt
      (by simp [arities])

theorem minArity_eq : g.minArity = (ofGroup m g).arities.headD 0 := by
  rw [arities_ofGroup]
  exact hg.minArity

theorem maxArity_eq : g.maxArity = (ofGroup m g).arities.getLastD 0 := by
  rw [arities_ofGroup]
  exact hg.maxArity

theorem range_ofGroup (hn : n ∈ (ofGroup m g).arities) : g.minArity ≤ n ∧ n ≤ g.maxArity := by
  rw [minArity_eq hg, maxArity_eq hg]
  exact ⟨headD_le_of_ascending (ascending_arities hg) hn 0,
    le_getLastD_of_ascending (ascending_arities hg) hn 0⟩

theorem ends_ofGroup (hne : (ofGroup m g).arities ≠ []) :
    g.minArity ∈ (ofGroup m g).arities ∧ g.maxArity ∈ (ofGroup m g).arities := by
  rw [minArity_eq hg, maxArity_eq hg]
  exact ⟨headD_mem hne 0, getLastD_mem hne 0⟩

theorem eq_of_arity_eq {f h : DescribedFunction M} (hf : f ∈ g.select m.functions)
    (hh : h ∈ g.select m.functions) (ha : f.description.arity = h.description.arity) : f = h := by
  have hnodup : ((g.select m.functions).map (·.description.arity)).Nodup := by
    rw [← arities_ofGroup]
    exact (ascending_arities hg).imp Nat.ne_of_lt
  exact List.inj_on_of_nodup_map hnodup hf hh ha

theorem minArity_le_maxArity : g.minArity ≤ g.maxArity := by
  by_cases hne : (ofGroup m g).arities = []
  · rw [minArity_eq hg, maxArity_eq hg, hne]
    exact Nat.le_refl 0
  · exact (range_ofGroup hg (ends_ofGroup hg hne).1).2

theorem resultTypes_ofGroup (hmin : g.minArity ≤ n) :
    ((ofGroup m g).resultTypes[n - g.minArity]?).join =
      if n ≤ g.maxArity then
        (((g.select m.functions).map (·.description)).find? fun d => d.arity = n).map (·.announced)
      else none := by
  have hkey : g.minArity + (n - g.minArity) = n := Nat.add_sub_cancel' hmin
  simp only [ofGroup, List.getElem?_map]
  split
  case isTrue hmax =>
    rw [List.getElem?_range (by omega), Option.map_some, Option.join_some, hkey]
  case isFalse hmax =>
    have hle := minArity_le_maxArity hg
    rw [List.getElem?_eq_none (by rw [List.length_range]; omega)]
    rfl

theorem resultType_ofGroup {t : SequenceType} :
    (ofGroup m g).resultType n = .ok t ↔
      ∃ f ∈ m.functions, f.description.name = g.name ∧ f.description.arity = n ∧
        t = f.description.announced := by
  have hmin' : (ofGroup m g).minArity = g.minArity := rfl
  constructor
  · intro h
    unfold resultType at h
    split at h
    case h_2 => cases h
    case h_1 t' ht =>
      obtain rfl := Except.ok.inj h
      split at ht
      case isTrue => cases ht
      case isFalse hmin =>
        rw [hmin'] at hmin ht
        rw [resultTypes_ofGroup hg (Nat.not_lt.1 hmin)] at ht
        split at ht
        case isFalse => cases ht
        case isTrue =>
          obtain ⟨d, hd, rfl⟩ := Option.map_eq_some_iff.1 ht
          obtain ⟨f, hf, rfl⟩ := List.mem_map.1 (List.mem_of_find?_eq_some hd)
          have hmem := (mem_select_iff hg).1 hf
          exact ⟨f, hmem.1, hmem.2, by simpa using List.find?_some hd, rfl⟩
  · rintro ⟨f, hf, hname, rfl, rfl⟩
    have hselect := (mem_select_iff hg).2 ⟨hf, hname⟩
    obtain ⟨hmin, hmax⟩ := range_ofGroup hg ((mem_arities_iff hg).2 ⟨f, hf, hname, rfl⟩)
    have hfind : ((g.select m.functions).map (·.description)).find?
        (fun d => d.arity = f.description.arity) = some f.description := by
      cases hd : ((g.select m.functions).map (·.description)).find?
          fun d => d.arity = f.description.arity with
      | none =>
        have := List.find?_eq_none.1 hd _ (List.mem_map_of_mem hselect)
        simp at this
      | some d =>
        obtain ⟨h, hh, rfl⟩ := List.mem_map.1 (List.mem_of_find?_eq_some hd)
        rw [eq_of_arity_eq hg hh hselect (by simpa using List.find?_some hd)]
    unfold resultType
    rw [hmin', if_neg (Nat.not_lt.2 hmin), resultTypes_ofGroup hg hmin, if_pos hmax, hfind]
    rfl

end Group

end Callable

/-! ### Callables of modules -/

namespace Module

variable {M : Type} {m : Module M} {c : Callable M} {n : Nat}

/-- The groups of a module are those of its functions. -/
def IsGrouped (m : Module M) : Prop :=
  OverloadSet.ofSignatures (m.functions.map Callable.signatureOf) = .ok m.groups

theorem identities_callables (hm : m.IsGrouped) :
    m.callables.map (·.identity) = (m.functions.map (·.description.name)).eraseDups := by
  have hnames := (OverloadSet.gathers_of_ofSignatures hm).1
  rw [callables, List.map_map]
  exact hnames

theorem exists_group (hm : m.IsGrouped) (hc : c ∈ m.callables) :
    ∃ g, g.Gathers Callable.signatureOf m.functions ∧ c = .ofGroup m g := by
  obtain ⟨g, hg, rfl⟩ := List.mem_map.1 hc
  exact ⟨g, (OverloadSet.gathers_of_ofSignatures hm).2 g hg, rfl⟩

theorem exists_function (hm : m.IsGrouped) (hc : c ∈ m.callables) :
    ∃ f ∈ m.functions, f.description.name = c.identity := by
  have hidentity : c.identity ∈ m.callables.map (·.identity) := List.mem_map_of_mem hc
  rwa [identities_callables hm, List.mem_eraseDups, List.mem_map] at hidentity

theorem range_of_mem (hm : m.IsGrouped) (hc : c ∈ m.callables) {f : DescribedFunction M}
    (hf : f ∈ m.functions) (hname : f.description.name = c.identity) :
    c.minArity ≤ f.description.arity ∧ f.description.arity ≤ c.maxArity := by
  obtain ⟨g, hg, rfl⟩ := exists_group hm hc
  exact Callable.range_ofGroup hg ((Callable.mem_arities_iff hg).2 ⟨f, hf, hname, rfl⟩)

theorem ends_of_mem (hm : m.IsGrouped) (hc : c ∈ m.callables) :
    (∃ f ∈ m.functions, f.description.name = c.identity ∧ f.description.arity = c.minArity) ∧
      ∃ f ∈ m.functions, f.description.name = c.identity ∧ f.description.arity = c.maxArity := by
  obtain ⟨f, hf, hname⟩ := exists_function hm hc
  obtain ⟨g, hg, rfl⟩ := exists_group hm hc
  have harity := (Callable.mem_arities_iff hg).2 ⟨f, hf, hname, rfl⟩
  obtain ⟨hmin, hmax⟩ := Callable.ends_ofGroup hg (List.ne_nil_of_mem harity)
  exact ⟨(Callable.mem_arities_iff hg).1 hmin, (Callable.mem_arities_iff hg).1 hmax⟩

/-- Each callable selects among the functions of its name by the number of arguments. -/
theorem overload?_eq_some_iff (hm : m.IsGrouped) (hc : c ∈ m.callables) {o : Overload M} :
    c.overload? n = some o ↔ ∃ f ∈ m.functions, f.description.name = c.identity ∧
      f.description.arity = n ∧ o = .ofBound f := by
  obtain ⟨g, hg, rfl⟩ := exists_group hm hc
  exact Callable.overload?_ofGroup hg

theorem resultType_eq_ok_iff (hm : m.IsGrouped) (hc : c ∈ m.callables) {t : SequenceType} :
    c.resultType n = .ok t ↔ ∃ f ∈ m.functions, f.description.name = c.identity ∧
      f.description.arity = n ∧ t = f.description.announced := by
  obtain ⟨g, hg, rfl⟩ := exists_group hm hc
  exact Callable.resultType_ofGroup hg

end Module

namespace ModuleDraft

variable {M : Type} {m : ModuleDraft M} {b : Module M} {f : FunctionDraft M} {j : Nat}

theorem Builds.isGrouped (hb : m.Builds b) : b.IsGrouped := hb.groups

theorem Builds.exists_callable (hb : m.Builds b) (hf : m.functions[j]? = some f) :
    ∃ c g, c ∈ b.callables ∧ b.functions[j]? = some g ∧
      m.describe m.functionNamespace f = .ok g ∧ g.description.name = c.identity := by
  obtain ⟨g, hg, hdescribe⟩ := Outcome.exists_of_getElem?_left hb.functions hf
  have hname : g.description.name ∈ b.callables.map (·.identity) := by
    rw [Module.identities_callables hb.isGrouped, List.mem_eraseDups]
    exact List.mem_map_of_mem (List.mem_of_getElem? hg)
  obtain ⟨c, hc, hidentity⟩ := List.mem_map.1 hname
  exact ⟨c, g, hc, hg, hdescribe, hidentity.symm⟩

end ModuleDraft

/-! ### Calls -/

section Calls

variable {M : Type} {ns : Namespaces} {args : List Sequence} {s s' : M}

theorem NativeFunction.call_eq_ok {f : NativeFunction M} {vs : List NativeValue} {v : NativeValue}
    (h : f.call vs s = (.ok v, s')) :
    ∃ a x, HostType.readArguments f.parameters vs = .ok a ∧ f.body a s = (.ok x, s') ∧
      v = f.result.toNative x := by
  unfold call at h
  cases ha : HostType.readArguments f.parameters vs with
  | error e => simp [ha] at h
  | ok a =>
    cases hbody : f.body a s with
    | mk r t =>
      cases r with
      | error e => simp [ha, hbody, Except.map] at h
      | ok x =>
        obtain ⟨rfl, rfl⟩ : f.result.toNative x = v ∧ t = s' := by
          simpa [ha, hbody, Except.map] using h
        exact ⟨a, x, rfl, hbody, rfl⟩

theorem Overload.call_eq_ok {o : Overload M} {name : ExpandedName} {seq : Sequence}
    (h : o.call name ns args s = (.ok seq, s')) :
    ∃ vs v, o.receiveAll name ns args = .ok vs ∧ o.native.call vs s = (.ok v, s') ∧
      o.output.deliver ns v = .ok seq := by
  unfold call at h
  cases hvs : o.receiveAll name ns args with
  | error e => simp [hvs] at h
  | ok vs =>
    cases hcall : o.native.call vs s with
    | mk r t =>
      cases r with
      | error e => simp [hvs, hcall] at h
      | ok v =>
        obtain ⟨hseq, rfl⟩ : o.output.deliver ns v = .ok seq ∧ t = s' := by
          simpa [hvs, hcall] using h
        exact ⟨vs, v, rfl, hcall, hseq⟩

theorem Callable.invoke_of_overload {c : Callable M} {o : Overload M}
    (h : c.overload? args.length = some o) : c.invoke ns args = o.call c.identity ns args := by
  funext s
  rw [invoke, h]

theorem Callable.invoke_of_noOverload {c : Callable M} (h : c.overload? args.length = none) :
    c.invoke ns args = fun s => (.error (c.noOverload args.length), s) := by
  funext s
  rw [invoke, h]

theorem Callable.invoke_eq_ok {c : Callable M} {seq : Sequence}
    (h : c.invoke ns args s = (.ok seq, s')) :
    ∃ o, c.overload? args.length = some o ∧ o.call c.identity ns args s = (.ok seq, s') := by
  unfold invoke at h
  cases ho : c.overload? args.length with
  | none => simp [ho] at h
  | some o => exact ⟨o, rfl, by simpa [ho] using h⟩

end Calls

end XPathExtension
