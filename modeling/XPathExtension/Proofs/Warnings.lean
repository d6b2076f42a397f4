import XPathExtension.Proofs.Acceptance
import XPathExtension.Proofs.Partition

/-!
Warnings on built callables. Nothing is found on the callables of a built module but warnings: one
for the numbers of arguments that calls fail with, unless the group has all arities of its range, and
one for each parameter of an overload whose type is not that of the overload with the most
parameters.
-/

namespace XPathExtension

variable {M : Type}

/-- A parameter whose type is not that of the widest overload. -/
structure TypeDifference where
  arity : Nat
  position : Nat
  actual : SequenceType
  declared : SequenceType
deriving DecidableEq, Repr

namespace TypeDifference

def finding (d : TypeDifference) : Finding := .otherType d.position d.arity d.actual d.declared

/-- By the overload first, and then by the position in it. -/
def Precedes (d d' : TypeDifference) : Prop :=
  d.arity < d'.arity ∨ d.arity = d'.arity ∧ d.position < d'.position

end TypeDifference

def Overload.typeAt? (o : Overload M) (k : Nat) : Option SequenceType :=
  (o.inputs[k]?).map (·.type)

namespace Callable

variable {m : ModuleDraft M} {c : Callable M} {n : Nat}

/-! ### Numbers of arguments -/

/-- No result type is announced for this number of arguments, and no call with as many arguments
reaches an overload. -/
structure Lacks (c : Callable M) (n : Nat) : Prop where
  announced : ∃ e, c.resultType n = .error e ∧ e.kind = .xpst0017
  called : ∀ (ns : Namespaces) (args : List Sequence) (s : M), args.length = n →
    ∃ e, c.invoke ns args s = (.error e, s) ∧ e.kind = .xpst0017

theorem pairwise_gaps (c : Callable M) : c.gaps.Pairwise (· < ·) :=
  List.Pairwise.filter _ List.pairwise_lt_range'

theorem Presents.range (h : c.Presents m) (hn : n ∈ c.arities) :
    c.minArity ≤ n ∧ n ≤ c.maxArity :=
  range_of_ascending h.ascending h.first h.last hn

theorem Presents.minArity_le_maxArity (h : c.Presents m) : c.minArity ≤ c.maxArity :=
  (h.range (List.mem_of_mem_head? h.first)).2

theorem Presents.mem_dispatch_iff (h : c.Presents m) {o : Overload M} :
    o ∈ c.dispatch ↔ c.overload? o.arity = some o := by
  constructor
  · intro ho
    obtain ⟨-, f, g, hbinds, heq⟩ := h.overloads o ho
    rw [(h.selected _ f g hbinds).1, heq]
  · intro ho
    exact (mem_of_overload? ho).1

theorem Presents.mem_arities_iff (h : c.Presents m) :
    n ∈ c.arities ↔ ∃ o, c.overload? n = some o := by
  constructor
  · intro hn
    obtain ⟨o, ho, rfl⟩ := List.mem_map.1 hn
    exact ⟨o, h.mem_dispatch_iff.1 ho⟩
  · rintro ⟨o, ho⟩
    obtain ⟨hmem, rfl⟩ := mem_of_overload? ho
    exact List.mem_map_of_mem hmem

theorem eq_noOverload_of_resultType {e : Error} (h : c.resultType n = .error e) :
    e = c.noOverload n := by
  unfold resultType at h
  split at h
  case h_1 => cases h
  case h_2 => exact (Except.error.inj h).symm

theorem Presents.lacks_iff (h : c.Presents m) : c.Lacks n ↔ n ∉ c.arities := by
  rw [h.mem_arities_iff, h.found, ← h.announced]
  constructor
  · rintro ⟨⟨e, he, -⟩, -⟩ ⟨t, ht⟩
    rw [he] at ht
    cases ht
  · intro hnone
    constructor
    case announced =>
      cases ht : c.resultType n with
      | ok t => exact absurd ⟨t, ht⟩ hnone
      | error e =>
        obtain rfl := eq_noOverload_of_resultType ht
        exact ⟨_, rfl, Error.ofCode_kind _ _⟩
    case called =>
      rintro ns args s rfl
      have hoverload : c.overload? args.length = none := by
        rw [Option.eq_none_iff_forall_ne_some]
        intro o ho
        exact hnone ((h.announced _).2 ((h.found _).1 ⟨o, ho⟩))
      refine ⟨c.noOverload args.length, ?_, Error.ofCode_kind _ _⟩
      rw [invoke_of_noOverload hoverload]

theorem Presents.gap_mem_findings (h : c.Presents m) (hn : n ∈ c.gaps) :
    .gap c.gaps ∈ c.findings := by
  rw [findings_eq_warnings h, warnings, if_neg (by simpa using List.ne_nil_of_mem hn)]
  exact List.mem_append_left _ List.mem_cons_self

/-! ### Types at positions -/

/-- The overload has another type at the position than the widest overload. -/
def Differs (c : Callable M) (d : TypeDifference) : Prop :=
  ∃ o widest, c.overload? d.arity = some o ∧ c.overload? c.maxArity = some widest ∧
    o.typeAt? d.position = some d.actual ∧ widest.typeAt? d.position = some d.declared ∧
      d.actual ≠ d.declared

/-- The differences of an overload, from its first position on. -/
def differencesOf (c : Callable M) (o : Overload M) : List TypeDifference :=
  (o.inputs.zip c.argumentTypes).zipIdx.filterMap fun ((slot, declared), k) =>
    if slot.type = declared then none else some ⟨o.arity, k, slot.type, declared⟩

def differences (c : Callable M) : List TypeDifference := c.dispatch.flatMap c.differencesOf

theorem map_finding_differencesOf (c : Callable M) (o : Overload M) :
    (c.differencesOf o).map TypeDifference.finding = c.otherTypes o := by
  rw [differencesOf, otherTypes, List.map_filterMap]
  refine List.filterMap_congr fun p _ => ?_
  obtain ⟨⟨slot, declared⟩, k⟩ := p
  dsimp only
  split <;> rfl

theorem map_finding_differences (c : Callable M) :
    c.differences.map TypeDifference.finding = c.dispatch.flatMap c.otherTypes := by
  simp only [differences, List.map_flatMap, map_finding_differencesOf]

theorem mem_differencesOf_iff {o : Overload M} {d : TypeDifference} :
    d ∈ c.differencesOf o ↔ o.arity = d.arity ∧ o.typeAt? d.position = some d.actual ∧
      c.argumentTypes[d.position]? = some d.declared ∧ d.actual ≠ d.declared := by
  rw [differencesOf, List.mem_filterMap]
  constructor
  · rintro ⟨⟨⟨slot, declared⟩, k⟩, hp, hd⟩
    obtain ⟨hslot, hdeclared⟩ :=
      List.getElem?_zip_eq_some.1 (List.mk_mem_zipIdx_iff_getElem?.1 hp)
    dsimp only at hd
    split at hd
    case isTrue => cases hd
    case isFalse hne =>
      obtain rfl := Option.some.inj hd
      exact ⟨rfl, by rw [Overload.typeAt?, hslot]; rfl, hdeclared, hne⟩
  · rintro ⟨harity, hactual, hdeclared, hne⟩
    obtain ⟨slot, hslot, htype⟩ := Option.map_eq_some_iff.1 hactual
    refine ⟨((slot, d.declared), d.position), ?_, ?_⟩
    · exact List.mk_mem_zipIdx_iff_getElem?.2 (List.getElem?_zip_eq_some.2 ⟨hslot, hdeclared⟩)
    · dsimp only
      rw [htype, harity, if_neg hne]

theorem pairwise_differencesOf (c : Callable M) (o : Overload M) :
    (c.differencesOf o).Pairwise TypeDifference.Precedes := by
  rw [differencesOf, List.pairwise_filterMap]
  refine (pairwise_zipIdx _ 0).imp fun {p q} hpq d hd d' hd' => ?_
  obtain ⟨⟨slot, declared⟩, k⟩ := p
  obtain ⟨⟨slot', declared'⟩, k'⟩ := q
  dsimp only at hd hd' hpq
  split at hd
  case isTrue => cases hd
  case isFalse =>
    split at hd'
    case isTrue => cases hd'
    case isFalse =>
      obtain rfl := Option.some.inj hd
      obtain rfl := Option.some.inj hd'
      exact .inr ⟨rfl, hpq⟩

theorem pairwise_differences (h : c.arities.Pairwise (· < ·)) :
    c.differences.Pairwise TypeDifference.Precedes := by
  refine List.pairwise_flatMap.2 ⟨fun o _ => pairwise_differencesOf c o, ?_⟩
  refine (List.pairwise_map.1 h).imp fun {o o'} hlt d hd d' hd' => .inl ?_
  rw [← (mem_differencesOf_iff.1 hd).1, ← (mem_differencesOf_iff.1 hd').1]
  exact hlt

/-- The declared types are those of the widest overload. -/
theorem Presents.exists_widest (h : c.Presents m) :
    ∃ widest, c.overload? c.maxArity = some widest ∧
      ∀ k : Nat, c.argumentTypes[k]? = widest.typeAt? k := by
  obtain ⟨f, g, hbinds, htypes⟩ := h.argumentTypes
  refine ⟨_, (h.selected _ f g hbinds).1, fun k => ?_⟩
  simp [htypes, Overload.typeAt?, Overload.ofBound, Function.comp_def]

theorem Presents.mem_differences_iff (h : c.Presents m) {d : TypeDifference} :
    d ∈ c.differences ↔ c.Differs d := by
  obtain ⟨widest, hwidest, htypes⟩ := h.exists_widest
  rw [differences, List.mem_flatMap]
  constructor
  · rintro ⟨o, ho, hd⟩
    obtain ⟨harity, hactual, hdeclared, hne⟩ := mem_differencesOf_iff.1 hd
    rw [htypes] at hdeclared
    exact ⟨o, widest, harity ▸ h.mem_dispatch_iff.1 ho, hwidest, hactual, hdeclared, hne⟩
  · rintro ⟨o, widest', ho, hwidest', hactual, hdeclared, hne⟩
    obtain rfl := Option.some.inj (hwidest.symm.trans hwidest')
    obtain ⟨hmem, harity⟩ := mem_of_overload? ho
    exact ⟨o, hmem, mem_differencesOf_iff.2 ⟨harity, hactual, (htypes _).trans hdeclared, hne⟩⟩

/-- Each parameter of an overload has one of the widest overload to be compared with. -/
theorem Presents.exists_types (h : c.Presents m) {o widest : Overload M}
    (ho : c.overload? n = some o) (hwidest : c.overload? c.maxArity = some widest) {k : Nat}
    (hk : k < n) :
    ∃ actual declared, o.typeAt? k = some actual ∧ widest.typeAt? k = some declared := by
  obtain ⟨hmem, rfl⟩ := mem_of_overload? ho
  obtain ⟨hwidestMem, hwidestArity⟩ := mem_of_overload? hwidest
  have hcount := (h.overloads o hmem).1
  have hwidestCount := (h.overloads widest hwidestMem).1
  have hmax := (h.range (List.mem_map_of_mem hmem)).2
  have hfirst : k < o.inputs.length := by omega
  have hsecond : k < widest.inputs.length := by omega
  exact ⟨_, _, by rw [Overload.typeAt?, List.getElem?_eq_getElem hfirst]; rfl,
    by rw [Overload.typeAt?, List.getElem?_eq_getElem hsecond]; rfl⟩

/-! ### Warnings -/

/-- What is found on the callable of a group: warnings for numbers of arguments and for parameters
whose types differ, and nothing else. -/
structure Warned (c : Callable M) (g : OverloadSet) (gaps : List Nat)
    (differences : List TypeDifference) : Prop where
  identity : c.identity = g.name
  findings : c.findings =
    (if g.isContiguous then [] else [.gap gaps]) ++ differences.map TypeDifference.finding
  harmless : ∀ f ∈ c.findings, f.severity = .warning
  contiguous : g.isContiguous = true ↔ gaps = []
  /-- The numbers of arguments in the range that calls fail with, in ascending order. -/
  mem_gaps : ∀ n, n ∈ gaps ↔ c.minArity ≤ n ∧ n ≤ c.maxArity ∧ c.Lacks n
  ascending : gaps.Pairwise (· < ·)
  /-- The parameters of other types than those of the widest overload, in order and each once. -/
  mem_differences : ∀ d, d ∈ differences ↔ c.Differs d
  ordered : differences.Pairwise TypeDifference.Precedes
  comparable : ∀ (n k : Nat) (o widest : Overload M), c.overload? n = some o →
    c.overload? c.maxArity = some widest → k < n →
    ∃ actual declared, o.typeAt? k = some actual ∧ widest.typeAt? k = some declared

end Callable

namespace ModuleDraft

variable {m : ModuleDraft M} {b : Module M} {g : OverloadSet}

theorem warned_of_mem (hb : m.Builds b) (hg : g ∈ b.groups) :
    (Callable.ofGroup b g).Warned g (Callable.ofGroup b g).gaps
      (Callable.ofGroup b g).differences := by
  have hpresents := presents_of_mem hb (List.mem_map_of_mem hg)
  have hordered := OverloadSet.isOrdered_of_ofSignatures hb.groups hg
  have hrange := hpresents.minArity_le_maxArity
  have hcontiguous : g.isContiguous = true ↔ (Callable.ofGroup b g).gaps = [] := by
    rw [hordered.contiguous, List.eq_nil_iff_forall_not_mem]
    refine forall_congr' fun n => ?_
    have harities : (Callable.ofGroup b g).arities =
        g.arities Callable.signatureOf b.functions := Callable.arities_ofGroup
    rw [Callable.mem_gaps_iff hrange, harities, not_and, not_and, not_not]
    rfl
  have hwarnings : (Callable.ofGroup b g).findings =
      (if g.isContiguous then [] else [.gap (Callable.ofGroup b g).gaps]) ++
        (Callable.ofGroup b g).differences.map TypeDifference.finding := by
    rw [Callable.findings_eq_warnings hpresents, Callable.warnings,
      Callable.map_finding_differences]
    simp [hcontiguous]
  constructor
  case identity => rfl
  case findings => exact hwarnings
  case harmless =>
    rw [Callable.findings_eq_warnings hpresents]
    exact fun f => Callable.severity_of_mem_warnings
  case contiguous => exact hcontiguous
  case mem_gaps =>
    intro n
    rw [Callable.mem_gaps_iff hrange, hpresents.lacks_iff]
  case ascending => exact Callable.pairwise_gaps _
  case mem_differences => exact fun d => hpresents.mem_differences_iff
  case ordered => exact Callable.pairwise_differences hpresents.ascending
  case comparable => exact fun n k o widest ho hwidest hk => hpresents.exists_types ho hwidest hk

/-- The callable of each group of a built module has nothing but warnings: one for all numbers of
arguments in its range that calls fail with, unless the group has every arity of the range, and one
for each parameter of an overload whose type is not that of the widest overload. -/
theorem findings_of_build (h : m.build = .ok b) : ∃ cs, b.generate = .ok cs ∧
    List.Forall₂ (fun g c => ∃ gaps differences, Callable.Warned c g gaps differences)
      b.groups cs := by
  have hb := builds_of_build h
  refine ⟨b.callables, Module.generate_eq_ok hb.isGrouped, ?_⟩
  refine List.forall₂_map_right_iff.2 (List.forall₂_same.2 fun g hg => ?_)
  exact ⟨_, _, warned_of_mem hb hg⟩

/-- A module with functions of one and of three arguments under one name, whose first parameters
have different types. -/
def uneven : ModuleDraft Unit where
  typeName := "Picks"
  initial := ()
  name := "picks"
  functions := [[.integer .i32], [.string, .integer .i32, .integer .i32]].map fun ts => {
    name := "pick"
    native := .ofFunction (ts.map .base) (.base .bool) fun _ => true }

theorem findings_of_build_uneven : ∃ b g c gaps differences,
    uneven.build = .ok b ∧ b.groups = [g] ∧ b.generate = .ok [c] ∧ c.Warned g gaps differences ∧
      c.findings.map Finding.message = ["no overload for arities [2]; such calls fail",
        "parameter 1 of #1 is xs:int but declared as xs:string"] := by
  have hmessages : uneven.build.toOption.any (fun b =>
      decide (b.groups.length = 1) && b.generate.toOption.any fun cs =>
        decide (cs.map (·.findings.map Finding.message) =
          [["no overload for arities [2]; such calls fail",
            "parameter 1 of #1 is xs:int but declared as xs:string"]])) = true := by
    decide +kernel
  obtain ⟨b, hbuild, hfacts⟩ := Outcome.any_toOption_iff.1 hmessages
  obtain ⟨hone, hfacts⟩ := Bool.and_eq_true_iff.1 hfacts
  obtain ⟨cs, hgenerate, hmessages⟩ := Outcome.any_toOption_iff.1 hfacts
  obtain ⟨g, hgroups⟩ := List.length_eq_one_iff.1 (of_decide_eq_true hone)
  obtain ⟨cs', hgenerate', hwarned⟩ := findings_of_build hbuild
  obtain rfl := Except.ok.inj (hgenerate.symm.trans hgenerate')
  rw [hgroups] at hwarned
  obtain ⟨c, cs, ⟨gaps, differences, hc⟩, hnil, rfl⟩ := List.forall₂_cons_left_iff.1 hwarned
  obtain rfl := List.forall₂_nil_left_iff.1 hnil
  exact ⟨b, g, c, gaps, differences, hbuild, hgroups, hgenerate, hc,
    List.singleton_inj.1 (of_decide_eq_true hmessages)⟩

end ModuleDraft

end XPathExtension
