import Mathlib.Data.List.Induction
import Mathlib.Data.List.Nodup
import Mathlib.Data.List.Perm.Subperm
import XPathExtension.Proofs.Dispatch

/-!
Grouping as a partition. Functions that differ in name or number of parameters are divided by their
names: each position is that of one member of one group, the groups stand in the order in which
their names first occur, and the members of each in the order of their arities. Functions that do
not differ are refused for the first name with such a pair and the arity that comes a second time
first.
-/

namespace XPathExtension

/-- The elements that are left stand in the order of their first occurrences. -/
theorem pairwise_idxOf_eraseDups {α : Type} [DecidableEq α] (as : List α) :
    as.eraseDups.Pairwise fun a b => as.idxOf a < as.idxOf b := by
  induction as using List.reverseRecOn with
  | nil => simp
  | append_singleton as x ih =>
    rw [List.eraseDups_append, List.pairwise_append]
    have hidx (a : α) (ha : a ∈ as.eraseDups) : (as ++ [x]).idxOf a = as.idxOf a := by
      rw [List.idxOf_append, if_pos (List.mem_eraseDups.1 ha)]
    refine ⟨ih.imp_of_mem fun {a b} ha hb hab => ?_, ?_, fun a ha b hb => ?_⟩
    · rwa [hidx a ha, hidx b hb]
    · by_cases hx : x ∈ as <;> simp [List.removeAll, List.eraseDups_cons, hx]
    · have hb : b = x ∧ x ∉ as := by
        by_cases hx : x ∈ as
        · simp [List.removeAll, hx] at hb
        · simpa [List.removeAll, hx] using hb
      obtain ⟨rfl, hx⟩ := hb
      rw [hidx a ha, List.idxOf_append, if_neg hx]
      exact Nat.lt_of_lt_of_le (List.idxOf_lt_length_of_mem (List.mem_eraseDups.1 ha))
        (Nat.le_add_left _ _)

/-- An ascending list has all numbers between its ends if it has as many elements as there are. -/
theorem length_eq_iff_of_ascending {ns : List Nat} {low high : Nat} (h : ns.Pairwise (· < ·))
    (hlow : ns.head? = some low) (hhigh : ns.getLast? = some high) :
    ns.length = high - low + 1 ↔ ∀ n, low ≤ n → n ≤ high → n ∈ ns := by
  have hnodup : ns.Nodup := h.imp Nat.ne_of_lt
  have hmem (n : Nat) (hn : n ∈ ns) : low ≤ n ∧ n ≤ high := range_of_ascending h hlow hhigh hn
  have hle : low ≤ high := (hmem low (List.mem_of_mem_head? hlow)).2
  have hrange (n : Nat) : n ∈ List.range' low (high - low + 1) ↔ low ≤ n ∧ n ≤ high := by
    rw [List.mem_range'_1]
    omega
  constructor
  · intro hlength n hn hn'
    have hsubset : ns ⊆ List.range' low (high - low + 1) := fun k hk => (hrange k).2 (hmem k hk)
    have hperm := (hnodup.subperm hsubset).perm_of_length_le (by simp [hlength])
    exact hperm.mem_iff.2 ((hrange n).2 ⟨hn, hn'⟩)
  · intro hall
    have hperm : ns.Perm (List.range' low (high - low + 1)) := by
      refine (List.perm_ext_iff_of_nodup hnodup List.nodup_range').2 fun n => ?_
      rw [hrange]
      exact ⟨hmem n, fun hn => hall n hn.1 hn.2⟩
    simpa using hperm.length_eq

namespace OverloadSet

variable {α : Type}

/-! ### Groups -/

section Groups

variable (sig : α → Signature) (functions : List α)

/-- The members have the name of the group and stand in strictly ascending order of their arities,
from the least to the greatest, and the group is contiguous if none is missing in between. -/
structure IsOrdered (g : OverloadSet) : Prop where
  named : ∀ i ∈ g.members, ∃ f, functions[i]? = some f ∧ (sig f).name = g.name
  ascending : (g.arities sig functions).Pairwise (· < ·)
  first : (g.arities sig functions).head? = some g.minArity
  last : (g.arities sig functions).getLast? = some g.maxArity
  contiguous : g.isContiguous = true ↔
    ∀ n, g.minArity ≤ n → n ≤ g.maxArity → n ∈ g.arities sig functions

/-- The groups divide the functions by their names. -/
structure Partitions (groups : List OverloadSet) : Prop where
  /-- Each position is that of one member of one group. -/
  positions : (groups.flatMap (·.members)).Perm (List.range functions.length)
  distinct : (groups.map (·.name)).Nodup
  /-- The groups stand in the order of the first functions of their names. -/
  order : (groups.map fun g => (functions.map fun f => (sig f).name).idxOf g.name).Pairwise (· < ·)
  ordered : ∀ g ∈ groups, g.IsOrdered sig functions

end Groups

variable {sig : α → Signature} {functions : List α} {name : ExpandedName} {g : OverloadSet}
  {groups : List OverloadSet}

/-- The members of all groups together are all positions. -/
theorem perm_range_of_ofSignatures (h : ofSignatures (functions.map sig) = .ok groups) :
    (groups.flatMap (·.members)).Perm (List.range functions.length) := by
  obtain ⟨hnames, -⟩ := gathers_of_ofSignatures h
  have hdistinct : groups.Pairwise fun g g' => g.name ≠ g'.name := by
    have hnodup := nodup_eraseDups (functions.map fun f => (sig f).name)
    rw [← hnames] at hnodup
    exact List.pairwise_map.1 hnodup
  have hdisjoint : groups.Pairwise fun g g' => List.Disjoint g.members g'.members := by
    refine hdistinct.imp_of_mem fun {g g'} hg hg' hne i hi hi' => hne ?_
    obtain ⟨f, hf, hname⟩ := ((members_of_ofSignatures h hg).2 i).1 hi
    obtain ⟨f', hf', hname'⟩ := ((members_of_ofSignatures h hg').2 i).1 hi'
    obtain rfl := Option.some.inj (hf.symm.trans hf')
    exact hname.symm.trans hname'
  have hnodup : (groups.flatMap (·.members)).Nodup :=
    List.nodup_flatMap.2 ⟨fun g hg => (members_of_ofSignatures h hg).1, hdisjoint⟩
  refine (List.perm_ext_iff_of_nodup hnodup List.nodup_range).2 fun i => ?_
  rw [List.mem_flatMap, List.mem_range]
  constructor
  · rintro ⟨g, hg, hi⟩
    obtain ⟨f, hf, -⟩ := ((members_of_ofSignatures h hg).2 i).1 hi
    exact (List.getElem?_eq_some_iff.1 hf).1
  · intro hi
    have hname : (sig functions[i]).name ∈ groups.map (·.name) := by
      rw [hnames, List.mem_eraseDups]
      exact List.mem_map_of_mem (List.getElem_mem hi)
    obtain ⟨g, hg, hgname⟩ := List.mem_map.1 hname
    exact ⟨g, hg, ((members_of_ofSignatures h hg).2 i).2
      ⟨_, List.getElem?_eq_getElem hi, hgname.symm⟩⟩

theorem length_arities (h : ∀ i ∈ g.members, ∃ f, functions[i]? = some f) :
    (g.arities sig functions).length = g.members.length := by
  rw [arities, List.length_map, select]
  generalize g.members = is at h ⊢
  induction is with
  | nil => rfl
  | cons i is ih =>
    obtain ⟨f, hf⟩ := h i List.mem_cons_self
    simp [hf, ih fun j hj => h j (List.mem_cons_of_mem i hj)]

theorem isOrdered_of_ofSignatures (h : ofSignatures (functions.map sig) = .ok groups)
    (hg : g ∈ groups) : g.IsOrdered sig functions := by
  obtain ⟨hnames, hgathers⟩ := gathers_of_ofSignatures h
  have hgroup := hgathers g hg
  have hnamed : ∀ i ∈ g.members, ∃ f, functions[i]? = some f ∧ (sig f).name = g.name :=
    fun i hi => ((members_of_ofSignatures h hg).2 i).1 hi
  have hascending : (g.arities sig functions).Pairwise (· < ·) :=
    List.pairwise_map.2 hgroup.ascending
  have hne : g.arities sig functions ≠ [] := by
    have hname : g.name ∈ functions.map fun f => (sig f).name := by
      rw [← List.mem_eraseDups, ← hnames]
      exact List.mem_map_of_mem hg
    obtain ⟨f, hf, hfname⟩ := List.mem_map.1 hname
    have hselect : f ∈ g.select functions := hgroup.perm.mem_iff.2 (by simp [hf, hfname])
    exact List.ne_nil_of_mem (List.mem_map_of_mem hselect)
  have hfirst := hgroup.head?_arities hne
  have hlast := hgroup.getLast?_arities hne
  refine ⟨hnamed, hascending, hfirst, hlast, ?_⟩
  rw [← length_eq_iff_of_ascending hascending hfirst hlast,
    length_arities fun i hi => (hnamed i hi).imp fun f hf => hf.1]
  simp [isContiguous]

theorem partitions_of_ofSignatures (h : ofSignatures (functions.map sig) = .ok groups) :
    Partitions sig functions groups := by
  obtain ⟨hnames, -⟩ := gathers_of_ofSignatures h
  refine ⟨perm_range_of_ofSignatures h, ?_, ?_, fun g hg => isOrdered_of_ofSignatures h hg⟩
  · rw [hnames]
    exact nodup_eraseDups _
  · have horder := pairwise_idxOf_eraseDups (functions.map fun f => (sig f).name)
    rw [← hnames, List.pairwise_map] at horder
    exact List.pairwise_map.2 horder

/-! ### Refusals -/

/-- A function at the position has the signature, and so has one before it. -/
def IsRepetition (sig : α → Signature) (functions : List α) (j : Nat) (s : Signature) : Prop :=
  (functions[j]?).map sig = some s ∧ ∃ i < j, (functions[i]?).map sig = some s

theorem IsRepetition.mem_names {j : Nat} {s : Signature} (h : IsRepetition sig functions j s) :
    s.name ∈ functions.map fun f => (sig f).name := by
  obtain ⟨f, hf, rfl⟩ := Option.map_eq_some_iff.1 h.1
  exact List.mem_map_of_mem (List.mem_of_getElem? hf)

/-- The name is the first that has two functions with one arity, and of its arities this one comes a
second time first. -/
structure Blames (sig : α → Signature) (functions : List α) (r : RepeatedArity) : Prop where
  arity : ∃ j, IsRepetition sig functions j ⟨r.name, r.arity⟩ ∧
    ∀ k n, IsRepetition sig functions k ⟨r.name, n⟩ → j ≤ k
  name : ∀ k s, IsRepetition sig functions k s →
    (functions.map fun f => (sig f).name).idxOf r.name ≤
      (functions.map fun f => (sig f).name).idxOf s.name

/-- An arity is found where it comes a second time, and the arities before are distinct. -/
theorem firstRepeated?_eq_some_iff {seen ns : List Nat} {n : Nat} :
    firstRepeated? seen ns = some n ↔ ∃ before after, ns = before ++ n :: after ∧
      (n ∈ before ∨ n ∈ seen) ∧ firstRepeated? seen before = none := by
  induction ns generalizing seen with
  | nil => simp [firstRepeated?]
  | cons k ns ih =>
    by_cases hk : k ∈ seen
    · rw [firstRepeated?, if_pos hk]
      constructor
      · intro h
        obtain rfl := Option.some.inj h
        exact ⟨[], ns, rfl, .inr hk, rfl⟩
      · rintro ⟨before, after, heq, -, hbefore⟩
        cases before with
        | nil => exact congrArg some (List.cons.inj heq).1
        | cons b before =>
          obtain ⟨rfl, -⟩ := List.cons.inj heq
          simp [firstRepeated?, hk] at hbefore
    · rw [firstRepeated?, if_neg hk, ih]
      constructor
      · rintro ⟨before, after, rfl, hn, hbefore⟩
        refine ⟨k :: before, after, rfl, ?_, by rwa [firstRepeated?, if_neg hk]⟩
        rcases hn with hn | hn
        · exact .inl (List.mem_cons_of_mem k hn)
        · rcases List.mem_cons.1 hn with rfl | hn
          · exact .inl List.mem_cons_self
          · exact .inr hn
      · rintro ⟨before, after, heq, hn, hbefore⟩
        cases before with
        | nil =>
          obtain ⟨rfl, -⟩ := List.cons.inj heq
          exact absurd (hn.resolve_left List.not_mem_nil) hk
        | cons b before =>
          obtain ⟨rfl, rfl⟩ := List.cons.inj heq
          rw [firstRepeated?, if_neg hk] at hbefore
          refine ⟨before, after, rfl, ?_, hbefore⟩
          rcases hn with hn | hn
          · rcases List.mem_cons.1 hn with rfl | hn
            · exact .inr List.mem_cons_self
            · exact .inl hn
          · exact .inr (List.mem_cons_of_mem k hn)

theorem mem_bucket_of_sig {j : Nat} {s : Signature} (h : (functions[j]?).map sig = some s) :
    (s, j) ∈ bucket (functions.map sig) s.name :=
  mem_bucket.2 ⟨by rw [List.getElem?_map, h], rfl⟩

/-- A bucket is refused for the arity that comes a second time first. -/
theorem repetition_of_ofBucket {r : RepeatedArity}
    (h : ofBucket name (bucket (functions.map sig) name) = .error r) : r.name = name ∧
      ∃ j, IsRepetition sig functions j ⟨r.name, r.arity⟩ ∧
        ∀ k n, IsRepetition sig functions k ⟨r.name, n⟩ → j ≤ k := by
  unfold ofBucket at h
  split at h
  case h_2 => cases h
  case h_1 n hn =>
    obtain rfl := Except.error.inj h
    refine ⟨rfl, ?_⟩
    obtain ⟨earlier, later, heq, hearlier, hfresh⟩ := firstRepeated?_eq_some_iff.1 hn
    obtain ⟨before, rest, hbucket, rfl, hrest⟩ := List.map_eq_append_iff.1 heq
    obtain ⟨⟨s, j⟩, after, rfl, rfl, -⟩ := List.map_eq_cons_iff.1 hrest
    have hmem {t : Signature × Nat} (ht : t ∈ before ++ (s, j) :: after) :
        (functions[t.2]?).map sig = some t.1 ∧ t.1.name = name := by
      rw [← hbucket] at ht
      exact ⟨getElem?_of_mem_bucket ht, (mem_bucket.1 ht).2⟩
    have hascending := pairwise_bucket (functions.map sig) name
    rw [hbucket, List.pairwise_append, List.pairwise_cons] at hascending
    obtain ⟨-, ⟨hafter, -⟩, hbefore⟩ := hascending
    -- what stands before the position in the bucket is what stands before it in the list
    have hmem_before {t : Signature × Nat} (ht : (functions[t.2]?).map sig = some t.1)
        (hname : t.1.name = name) (hlt : t.2 < j) : t ∈ before := by
      have htb : t ∈ bucket (functions.map sig) name := hname ▸ mem_bucket_of_sig ht
      rw [hbucket] at htb
      rcases List.mem_append.1 htb with htb | htb
      · exact htb
      · rcases List.mem_cons.1 htb with rfl | htb
        · exact absurd hlt (Nat.lt_irrefl _)
        · exact absurd (hafter t htb) (Nat.lt_asymm hlt)
    have hnodup : (before.map (·.1.arity)).Nodup := (firstRepeated?_eq_none_iff.1 hfresh).1
    obtain ⟨hsj, hsname⟩ := hmem (t := (s, j)) (by simp)
    refine ⟨j, ⟨?_, ?_⟩, fun k n hk => Nat.le_of_not_lt fun hlt => ?_⟩
    · rw [hsj, ← hsname]
    · obtain ⟨t, ht, harity⟩ := List.mem_map.1 (hearlier.resolve_right List.not_mem_nil)
      obtain ⟨hti, htname⟩ := hmem (List.mem_append_left _ ht)
      refine ⟨t.2, hbefore t ht _ List.mem_cons_self, ?_⟩
      rw [hti, ← htname, ← harity]
    · obtain ⟨hk, i, hi, hik⟩ := hk
      have hkb := hmem_before (t := (_, k)) hk rfl hlt
      have hib := hmem_before (t := (_, i)) hik rfl (Nat.lt_trans hi hlt)
      have heq := List.inj_on_of_nodup_map hnodup hib hkb rfl
      exact absurd (congrArg Prod.snd heq) (Nat.ne_of_lt hi)

theorem not_isRepetition_of_ofBucket {j n : Nat}
    (h : ofBucket name (bucket (functions.map sig) name) = .ok g) :
    ¬ IsRepetition sig functions j ⟨name, n⟩ := by
  rintro ⟨hj, i, hi, hij⟩
  have hnone : firstRepeated? [] ((bucket (functions.map sig) name).map (·.1.arity)) = none := by
    unfold ofBucket at h
    split at h
    case h_1 => cases h
    case h_2 hnone => exact hnone
  have hnodup := (firstRepeated?_eq_none_iff.1 hnone).1
  have heq := List.inj_on_of_nodup_map hnodup (mem_bucket_of_sig hij) (mem_bucket_of_sig hj) rfl
  exact absurd (congrArg Prod.snd heq) (Nat.ne_of_lt hi)

theorem blames_of_ofSignatures {r : RepeatedArity}
    (h : ofSignatures (functions.map sig) = .error r) : Blames sig functions r := by
  unfold ofSignatures at h
  rw [Outcome.mapM_eq_error_iff, List.map_map] at h
  obtain ⟨before, name, after, groups, hnames, hbefore, hbucket⟩ := h
  obtain ⟨rfl, harity⟩ := repetition_of_ofBucket hbucket
  refine ⟨harity, fun k s hk => ?_⟩
  have horder := pairwise_idxOf_eraseDups (functions.map fun f => (sig f).name)
  have hs : s.name ∈ (functions.map fun f => (sig f).name).eraseDups :=
    List.mem_eraseDups.2 hk.mem_names
  change (functions.map fun f => (sig f).name).eraseDups = _ at hnames
  rw [hnames] at horder hs
  obtain ⟨-, hafter, -⟩ := List.pairwise_append.1 horder
  rcases List.mem_append.1 hs with hs | hs
  · -- the names before have groups
    obtain ⟨g, -, hg⟩ := Outcome.exists_of_mem_left (Outcome.mapM_eq_ok_iff.1 hbefore) hs
    exact absurd hk (not_isRepetition_of_ofBucket hg)
  · rcases List.mem_cons.1 hs with heq | hs
    · exact Nat.le_of_eq (by rw [heq])
    · exact Nat.le_of_lt ((List.pairwise_cons.1 hafter).1 s.name hs)

theorem IsRepetition.not_nodup {j : Nat} {s : Signature} (h : IsRepetition sig functions j s) :
    ¬ (functions.map sig).Nodup := by
  obtain ⟨hj, i, hi, hij⟩ := h
  intro hnodup
  rw [← List.getElem?_map] at hj hij
  obtain ⟨hlt, -⟩ := List.getElem?_eq_some_iff.1 hij
  exact absurd ((List.getElem?_inj hlt hnodup).1 (hij.trans hj.symm)) (Nat.ne_of_lt hi)

theorem Blames.not_nodup {r : RepeatedArity} (h : Blames sig functions r) :
    ¬ (functions.map sig).Nodup := by
  obtain ⟨⟨j, hj, -⟩, -⟩ := h
  exact hj.not_nodup

/-- Functions are grouped if their signatures are distinct. -/
theorem exists_ofSignatures_iff (sig : α → Signature) (functions : List α) :
    (∃ groups, ofSignatures (functions.map sig) = .ok groups) ↔ (functions.map sig).Nodup := by
  refine ⟨fun ⟨groups, h⟩ => nodup_of_ofSignatures h, fun hnodup => ?_⟩
  cases h : ofSignatures (functions.map sig) with
  | ok groups => exact ⟨groups, rfl⟩
  | error r =>
    exact absurd hnodup (blames_of_ofSignatures h).not_nodup

end OverloadSet

namespace ModuleDraft

open Callable (signatureOf)

variable {M : Type} {m : ModuleDraft M} {functions : List (DescribedFunction M)}

theorem group_eq_error {e : BindingError} (h : m.group functions = .error e) :
    ∃ r, OverloadSet.ofSignatures (functions.map signatureOf) = .error r ∧
      e = ⟨m.name, .ambiguousOverload r.name r.arity⟩ := by
  unfold group at h
  split at h
  case h_1 => cases h
  case h_2 r hr => exact ⟨r, hr, (Except.error.inj h).symm⟩

theorem exists_group_iff :
    (∃ groups, m.group functions = .ok groups) ↔ (functions.map signatureOf).Nodup := by
  rw [← OverloadSet.exists_ofSignatures_iff]
  refine exists_congr fun groups => ⟨group_eq_ok, fun h => ?_⟩
  change OverloadSet.ofSignatures (functions.map (·.description.signature)) = _ at h
  rw [group, h]

/-- Functions are grouped if and only if no two have both name and number of parameters in common.
The groups then divide them by name; otherwise the error names the first name and arity that are
repeated. -/
theorem group_partitions (m : ModuleDraft M) (functions : List (DescribedFunction M)) :
    ((∃ groups, m.group functions = .ok groups) ↔ functions.Pairwise fun f g =>
        ¬ (f.description.name = g.description.name ∧
          f.description.arity = g.description.arity)) ∧
      (∀ groups, m.group functions = .ok groups →
        OverloadSet.Partitions signatureOf functions groups) ∧
      ∀ e, m.group functions = .error e → ∃ r : RepeatedArity,
        e = ⟨m.name, .ambiguousOverload r.name r.arity⟩ ∧
          OverloadSet.Blames signatureOf functions r := by
  refine ⟨?_, fun groups h => ?_, fun e h => ?_⟩
  · rw [exists_group_iff, List.Nodup, List.pairwise_map]
    simp [FunctionDescription.signature]
  · exact OverloadSet.partitions_of_ofSignatures (group_eq_ok h)
  · obtain ⟨r, hr, rfl⟩ := group_eq_error h
    exact ⟨r, rfl, OverloadSet.blames_of_ofSignatures hr⟩

/-- The place of a truth value. -/
def truth : Slot :=
  ⟨(SequenceType.infer (HostType.base .bool).describe none .builtin).toOption.getD .empty,
    (HostType.base .bool).describe⟩

/-- A function of truth values that does not look at them. -/
def constant (name : String) (n : Nat) : DescribedFunction Unit where
  description := {
    name := ⟨none, name⟩
    parameters := List.replicate n ⟨"arg", truth⟩
    result := truth
    sideEffects := false
    moduleName := "constants" }
  native := .ofFunction (List.replicate n (.base .bool)) (.base .bool) fun _ => true

/-- A module named for its functions. -/
def constants : ModuleDraft Unit := { typeName := "Constants", initial := (), name := "constants" }

def interleaved : List (DescribedFunction Unit) :=
  [constant "all" 3, constant "none" 0, constant "all" 1]

/-- Both names have repeated arities, and the first name has two. -/
def clashing : List (DescribedFunction Unit) :=
  [constant "all" 2, constant "none" 0, constant "none" 0, constant "all" 1, constant "all" 1,
    constant "all" 2]

theorem group_partitions_constants :
    constants.group interleaved =
        .ok [⟨⟨none, "all"⟩, [2, 0], 1, 3⟩, ⟨⟨none, "none"⟩, [1], 0, 0⟩] ∧
      OverloadSet.Partitions signatureOf interleaved
        [⟨⟨none, "all"⟩, [2, 0], 1, 3⟩, ⟨⟨none, "none"⟩, [1], 0, 0⟩] ∧
      constants.group clashing =
        .error ⟨"constants", .ambiguousOverload ⟨none, "all"⟩ 1⟩ ∧
      OverloadSet.Blames signatureOf clashing ⟨⟨none, "all"⟩, 1⟩ := by
  have hgroups : constants.group interleaved =
      .ok [⟨⟨none, "all"⟩, [2, 0], 1, 3⟩, ⟨⟨none, "none"⟩, [1], 0, 0⟩] := rfl
  have hclash : constants.group clashing =
      .error ⟨"constants", .ambiguousOverload ⟨none, "all"⟩ 1⟩ := rfl
  obtain ⟨r, hr, hblames⟩ := (group_partitions constants clashing).2.2 _ hclash
  have heq : r = ⟨⟨none, "all"⟩, 1⟩ := by
    cases r
    simp only [BindingError.mk.injEq, BindingFault.ambiguousOverload.injEq] at hr
    obtain ⟨-, rfl, rfl⟩ := hr
    rfl
  rw [heq] at hblames
  exact ⟨hgroups, (group_partitions constants interleaved).2.1 _ hgroups, hclash, hblames⟩

end ModuleDraft

end XPathExtension
