import Mathlib.Data.List.Nodup
import XPathExtension.Overload
import XPathExtension.Proofs.Outcome

/-!
Groups of functions. There is one group for each name, and its members are the functions of that
name, each once, in strictly ascending order of their arities.
-/

namespace XPathExtension

theorem nodup_eraseDups {α : Type} [DecidableEq α] (as : List α) : as.eraseDups.Nodup := by
  match as with
  | [] => simp
  | a :: as =>
    rw [List.eraseDups_cons, List.nodup_cons]
    refine ⟨by simp [List.mem_eraseDups], ?_⟩
    exact nodup_eraseDups (as.filter fun b => !b == a)
termination_by as.length
decreasing_by exact Nat.lt_succ_of_le (List.length_filter_le _ _)

theorem pairwise_zipIdx {α : Type} (as : List α) (n : Nat) :
    (as.zipIdx n).Pairwise fun a b => a.2 < b.2 := by
  have hpositions : ((as.zipIdx n).map (·.2)).Pairwise (· < ·) := by
    rw [List.zipIdx_map_snd]
    exact List.pairwise_lt_range'
  exact List.pairwise_map.1 hpositions

/-- Of elements with distinct keys, one has the key of a given one. -/
theorem filter_eq_singleton_of_nodup {α β : Type} [DecidableEq β] {key : α → β} {as : List α}
    {a : α} (h : (as.map key).Nodup) (ha : a ∈ as) : (as.filter fun b => key b = key a) = [a] := by
  have hnodup : (as.filter fun b => key b = key a).Nodup := (List.Nodup.of_map _ h).filter _
  have hperm : (as.filter fun b => key b = key a).Perm [a] := by
    refine (List.perm_ext_iff_of_nodup hnodup (List.nodup_singleton a)).2 fun b => ?_
    simp only [List.mem_filter, decide_eq_true_eq, List.mem_singleton]
    constructor
    · rintro ⟨hb, hkey⟩
      exact List.inj_on_of_nodup_map h hb ha hkey
    · rintro rfl
      exact ⟨ha, rfl⟩
  exact List.perm_singleton.1 hperm

namespace OverloadSet

theorem firstRepeated?_eq_none_iff {seen ns : List Nat} :
    firstRepeated? seen ns = none ↔ ns.Nodup ∧ ∀ n ∈ ns, n ∉ seen := by
  induction ns generalizing seen with
  | nil => simp [firstRepeated?]
  | cons n ns ih =>
    rw [firstRepeated?]
    split
    case isTrue h => simp [h]
    case isFalse h =>
      rw [ih, List.nodup_cons, List.forall_mem_cons]
      constructor
      · rintro ⟨hns, hseen⟩
        refine ⟨⟨fun hn => ?_, hns⟩, h, fun k hk hs => ?_⟩
        · exact hseen n hn (by simp)
        · exact hseen k hk (by simp [hs])
      · rintro ⟨⟨hn, hns⟩, -, hseen⟩
        refine ⟨hns, fun k hk hs => ?_⟩
        rcases List.mem_cons.1 hs with rfl | hs
        · exact hn hk
        · exact hseen k hk hs

variable {α : Type} {sig : α → Signature} {functions : List α} {name : ExpandedName}
  {g : OverloadSet}

theorem getElem?_of_mem_bucket {s : Signature × Nat}
    (hs : s ∈ bucket (functions.map sig) name) : (functions[s.2]?).map sig = some s.1 := by
  rw [← List.getElem?_map]
  exact (mem_bucket.1 hs).1

/-- A bucket has the functions of its name in their order. -/
theorem filterMap_bucket (sig : α → Signature) (functions : List α) (name : ExpandedName) :
    (bucket (functions.map sig) name).filterMap (fun s => functions[s.2]?) =
      functions.filter fun f => (sig f).name = name := by
  rw [bucket, List.zipIdx_map, List.filter_map, List.filterMap_map]
  have hposition : ∀ f ∈ functions.zipIdx.filter
      ((fun s => decide (s.1.name = name)) ∘ Prod.map sig id),
      ((fun s => functions[s.2]?) ∘ Prod.map sig id) f = some f.1 := by
    intro f hf
    exact List.mem_zipIdx_iff_getElem?.1 (List.mem_filter.1 hf).1
  rw [List.filterMap_congr hposition]
  change (functions.zipIdx.filter _).filterMap (some ∘ Prod.fst) = _
  rw [List.filterMap_eq_map]
  conv_rhs => rw [← List.zipIdx_map_fst 0 functions, List.filter_map]
  rfl

/-- What the group of a name has to be for functions with signatures. -/
structure Gathers (sig : α → Signature) (functions : List α) (g : OverloadSet) : Prop where
  perm : (g.select functions).Perm (functions.filter fun f => (sig f).name = g.name)
  ascending : (g.select functions).Pairwise fun f h => (sig f).arity < (sig h).arity
  minArity : g.minArity = ((g.select functions).map fun f => (sig f).arity).headD 0
  maxArity : g.maxArity = ((g.select functions).map fun f => (sig f).arity).getLastD 0

/-- The arities of the members, in their order. -/
def arities (sig : α → Signature) (functions : List α) (g : OverloadSet) : List Nat :=
  (g.select functions).map fun f => (sig f).arity

theorem Gathers.head?_arities (h : g.Gathers sig functions) (hne : g.arities sig functions ≠ []) :
    (g.arities sig functions).head? = some g.minArity := by
  rw [h.minArity, ← arities, List.headD_eq_head?_getD, List.head?_eq_some_head hne]
  rfl

theorem Gathers.getLast?_arities (h : g.Gathers sig functions)
    (hne : g.arities sig functions ≠ []) :
    (g.arities sig functions).getLast? = some g.maxArity := by
  rw [h.maxArity, ← arities, List.getLastD_eq_getLast?, List.getLast?_eq_some_getLast hne]
  rfl

theorem isOrder_arity : Insertion.IsOrder fun a b : Signature × Nat =>
    decide (a.1.arity ≤ b.1.arity) where
  total a b := Insertion.isOrder_nat.total a.1.arity b.1.arity
  trans a b c := Insertion.isOrder_nat.trans a.1.arity b.1.arity c.1.arity

theorem map_arity_filterMap {ss : List (Signature × Nat)}
    (h : ∀ s ∈ ss, (functions[s.2]?).map sig = some s.1) :
    ((ss.filterMap fun s => functions[s.2]?).map fun f => (sig f).arity) =
      ss.map (·.1.arity) := by
  rw [List.map_filterMap, ← List.filterMap_eq_map]
  refine List.filterMap_congr fun s hs => ?_
  have hsig := congrArg (Option.map (·.arity)) (h s hs)
  rwa [Option.map_map] at hsig

theorem gathers_of_ofBucket (h : ofBucket name (bucket (functions.map sig) name) = .ok g) :
    g.name = name ∧ g.Gathers sig functions := by
  unfold ofBucket at h
  cases hr : firstRepeated? [] ((bucket (functions.map sig) name).map (·.1.arity)) with
  | some n => simp [hr] at h
  | none =>
    simp only [hr, Except.ok.injEq] at h
    subst h
    refine ⟨rfl, ?_⟩
    have hsort := Insertion.pairwise_sort isOrder_arity (bucket (functions.map sig) name)
    have hperm := Insertion.sort_perm (fun a b : Signature × Nat =>
      decide (a.1.arity ≤ b.1.arity)) (bucket (functions.map sig) name)
    generalize Insertion.sort (fun a b : Signature × Nat => decide (a.1.arity ≤ b.1.arity))
      (bucket (functions.map sig) name) = sorted at hsort hperm ⊢
    have hlt : sorted.Pairwise fun a b => a.1.arity < b.1.arity := by
      have hnodup : (sorted.map (·.1.arity)).Nodup :=
        (hperm.map _).nodup_iff.2 (firstRepeated?_eq_none_iff.1 hr).1
      refine (hsort.and (List.pairwise_map.1 hnodup)).imp fun {a b} hab => ?_
      exact Nat.lt_of_le_of_ne (of_decide_eq_true hab.1) hab.2
    have hselect (members : List Nat) (hm : members = sorted.map (·.2)) :
        members.filterMap (fun i => functions[i]?) =
          sorted.filterMap fun s => functions[s.2]? := by
      rw [hm, List.filterMap_map]
      rfl
    have harity := map_arity_filterMap fun s hs => getElem?_of_mem_bucket (hperm.mem_iff.1 hs)
    constructor
    · rw [select, hselect _ rfl, ← filterMap_bucket sig functions name]
      exact hperm.filterMap _
    · have hascending : (sorted.map (·.1.arity)).Pairwise (· < ·) := List.pairwise_map.2 hlt
      rw [← harity] at hascending
      rw [select, hselect _ rfl]
      exact List.pairwise_map.1 hascending
    · rw [select, hselect _ rfl, harity]
    · rw [select, hselect _ rfl, harity]

/-- There is one group for each name, which gathers the functions of the name. -/
theorem gathers_of_ofSignatures {groups : List OverloadSet}
    (h : ofSignatures (functions.map sig) = .ok groups) :
    groups.map (·.name) = (functions.map fun f => (sig f).name).eraseDups ∧
      ∀ g ∈ groups, g.Gathers sig functions := by
  unfold ofSignatures at h
  rw [Outcome.mapM_eq_ok_iff, List.map_map] at h
  constructor
  · have hnames : List.Forall₂ (fun name (g : OverloadSet) => name = g.name)
        (functions.map fun f => (sig f).name).eraseDups groups :=
      h.imp fun name g hg => (gathers_of_ofBucket hg).1.symm
    rw [← List.forall₂_map_right_iff, List.forall₂_eq_eq_eq] at hnames
    exact hnames.symm
  · intro g hg
    obtain ⟨name, -, hname⟩ := Outcome.exists_of_mem_right h hg
    exact (gathers_of_ofBucket hname).2

/-! ### Members -/

/-- The positions in a bucket ascend. -/
theorem pairwise_bucket (signatures : List Signature) (name : ExpandedName) :
    (bucket signatures name).Pairwise fun s t => s.2 < t.2 :=
  (pairwise_zipIdx signatures 0).filter _

theorem perm_members_of_ofBucket {signatures : List Signature}
    (h : ofBucket name (bucket signatures name) = .ok g) :
    g.name = name ∧ g.members.Perm ((bucket signatures name).map (·.2)) := by
  unfold ofBucket at h
  split at h
  case h_1 => cases h
  case h_2 =>
    obtain rfl := Except.ok.inj h
    exact ⟨rfl, (Insertion.sort_perm _ _).map _⟩

/-- The members of a group are the positions of the functions of its name, each once. -/
theorem members_of_ofSignatures {groups : List OverloadSet}
    (h : ofSignatures (functions.map sig) = .ok groups) (hg : g ∈ groups) :
    g.members.Nodup ∧ ∀ i, i ∈ g.members ↔ ∃ f, functions[i]? = some f ∧ (sig f).name = g.name := by
  obtain ⟨name, -, hbucket⟩ := Outcome.exists_of_mem_right (Outcome.mapM_eq_ok_iff.1 h) hg
  obtain ⟨rfl, hperm⟩ := perm_members_of_ofBucket hbucket
  constructor
  · have hascending := List.pairwise_map.2 (pairwise_bucket (functions.map sig) g.name)
    exact hperm.nodup_iff.2 (hascending.imp Nat.ne_of_lt)
  · intro i
    rw [hperm.mem_iff, List.mem_map]
    constructor
    · rintro ⟨s, hs, rfl⟩
      obtain ⟨hposition, hname⟩ := mem_bucket.1 hs
      rw [List.getElem?_map] at hposition
      obtain ⟨f, hf, hsig⟩ := Option.map_eq_some_iff.1 hposition
      exact ⟨f, hf, hsig ▸ hname⟩
    · rintro ⟨f, hf, hname⟩
      refine ⟨(sig f, i), mem_bucket.2 ⟨?_, hname⟩, rfl⟩
      rw [List.getElem?_map, hf]
      rfl

/-! ### Signatures -/

theorem count_map_sig (sig : α → Signature) (functions : List α) (s : Signature) :
    (functions.map sig).count s =
      ((functions.filter fun f => (sig f).name = s.name).map fun f => (sig f).arity).count
        s.arity := by
  induction functions with
  | nil => rfl
  | cons f functions ih =>
    have hext : sig f = s ↔ (sig f).name = s.name ∧ (sig f).arity = s.arity := by
      cases sig f
      cases s
      simp
    rw [List.map_cons, List.count_cons, ih]
    by_cases hname : (sig f).name = s.name
    · simp [hname, hext, List.count_cons]
    · simp [hname, hext]

theorem nodup_of_ofSignatures {groups : List OverloadSet}
    (h : ofSignatures (functions.map sig) = .ok groups) : (functions.map sig).Nodup := by
  rw [List.nodup_iff_count_le_one]
  intro s
  by_cases hs : s ∈ functions.map sig
  · obtain ⟨hnames, hgathers⟩ := gathers_of_ofSignatures h
    have hname : s.name ∈ groups.map (·.name) := by
      obtain ⟨f, hf, rfl⟩ := List.mem_map.1 hs
      rw [hnames, List.mem_eraseDups]
      exact List.mem_map_of_mem hf
    obtain ⟨g, hg, hgname⟩ := List.mem_map.1 hname
    have hgroup := hgathers g hg
    have hnodup : ((g.select functions).map fun f => (sig f).arity).Nodup :=
      List.pairwise_map.2 (hgroup.ascending.imp Nat.ne_of_lt)
    rw [count_map_sig, ← hgname, ← (hgroup.perm.map _).count_eq]
    exact List.nodup_iff_count_le_one.1 hnodup _
  · rw [List.count_eq_zero_of_not_mem hs]
    exact Nat.zero_le 1

end OverloadSet

end XPathExtension
