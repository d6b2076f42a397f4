import Mathlib.Data.List.Induction
import Mathlib.Data.List.Sort
import XPathExtension.CandidateTable
import XPathExtension.Proofs.Grouping
import XPathExtension.Proofs.Registering

/-!
Resolution as a choice among all registrations. Of the registrations of a name that cover a number
of arguments the most specific one is found: the narrowest, of equally narrow ones the one that
starts first, and of those with one range the one that was made first. It makes no difference
whether the candidates are sorted with each registration or once for each search, nor in what order
registrations with different ranges were made.
-/

namespace XPathExtension

/-! ### The first of the least elements -/

namespace Insertion

variable {α : Type} {le : α → α → Bool} {p : α → Bool} {as : List α} {a b x : α}

/-- The element has the property; of the others with the property, those before it come strictly
later in the order, and those after it do not come earlier. -/
def IsFirstLeast (le : α → α → Bool) (p : α → Bool) (as : List α) (a : α) : Prop :=
  p a = true ∧ ∃ before after, as = before ++ a :: after ∧
    (∀ b ∈ before, p b = true → le b a = false) ∧ ∀ b ∈ after, p b = true → le a b = true

theorem IsFirstLeast.mem (h : IsFirstLeast le p as a) : a ∈ as := by
  obtain ⟨-, before, after, rfl, -⟩ := h
  simp

theorem IsFirstLeast.le_of_mem (ho : IsOrder le) (h : IsFirstLeast le p as a) (hb : b ∈ as)
    (hp : p b = true) : le a b = true := by
  obtain ⟨-, before, after, rfl, hbefore, hafter⟩ := h
  rcases List.mem_append.1 hb with hb | hb
  · refine (ho.total a b).resolve_right ?_
    rw [hbefore b hb hp]
    exact Bool.false_ne_true
  · rcases List.mem_cons.1 hb with rfl | hb
    · exact (ho.total b b).elim id id
    · exact hafter b hb hp

theorem isFirstLeast_concat_iff : IsFirstLeast le p (as ++ [x]) a ↔
    (x = a ∧ p x = true ∧ ∀ b ∈ as, p b = true → le b x = false) ∨
      IsFirstLeast le p as a ∧ (p x = true → le a x = true) := by
  constructor
  · rintro ⟨ha, before, after, heq, hbefore, hafter⟩
    cases after using List.reverseRecOn with
    | nil =>
      obtain ⟨rfl, rfl⟩ : as = before ∧ x = a := by simpa using heq
      exact .inl ⟨rfl, ha, hbefore⟩
    | append_singleton after y =>
      rw [← List.cons_append, ← List.append_assoc] at heq
      obtain ⟨rfl, hlast⟩ := List.append_inj' heq rfl
      obtain rfl := List.singleton_inj.1 hlast
      refine .inr ⟨⟨ha, before, after, rfl, hbefore, fun b hb => ?_⟩, ?_⟩
      · exact hafter b (List.mem_append_left _ hb)
      · exact hafter x (by simp)
  · rintro (⟨rfl, hx, hbefore⟩ | ⟨⟨ha, before, after, rfl, hbefore, hafter⟩, hx⟩)
    · exact ⟨hx, as, [], rfl, hbefore, by simp⟩
    · refine ⟨ha, before, after ++ [x], by simp, hbefore, fun b hb => ?_⟩
      rcases List.mem_append.1 hb with hb | hb
      · exact hafter b hb
      · obtain rfl := List.mem_singleton.1 hb
        exact hx

theorem isFirstLeast_filter_iff {q : α → Bool} :
    IsFirstLeast le p (as.filter q) a ↔ IsFirstLeast le (fun x => q x && p x) as a := by
  induction as using List.reverseRecOn generalizing a with
  | nil => simp [IsFirstLeast]
  | append_singleton as x ih =>
    rw [List.filter_append]
    cases hq : q x with
    | true => simp [hq, isFirstLeast_concat_iff, ih]
    | false => simp [hq, isFirstLeast_concat_iff, ih]

theorem isFirstLeast_concat_of_none (hx : p x = true) (hnone : ∀ b ∈ as, p b ≠ true) :
    IsFirstLeast le p (as ++ [x]) a ↔ x = a := by
  rw [isFirstLeast_concat_iff]
  constructor
  · rintro (⟨rfl, -⟩ | ⟨ha, -⟩)
    · rfl
    · exact absurd ha.1 (hnone a ha.mem)
  · rintro rfl
    exact .inl ⟨rfl, hx, fun b hb hp => absurd hp (hnone b hb)⟩

/-- A new element at the end counts only if it comes before what was the first of the least. -/
theorem isFirstLeast_concat_of_some (h : IsOrder le) (hx : p x = true)
    (hb : IsFirstLeast le p as b) (hunique : ∀ c, IsFirstLeast le p as c → b = c) :
    IsFirstLeast le p (as ++ [x]) a ↔ prefer le x (some b) = a := by
  rw [isFirstLeast_concat_iff]
  cases hbx : le b x with
  | true =>
    simp only [prefer, hbx, if_true]
    constructor
    · rintro (⟨rfl, -, hall⟩ | ⟨ha, -⟩)
      · exact absurd hbx (Bool.eq_false_iff.1 (hall b hb.mem hb.1))
      · exact hunique a ha
    · rintro rfl
      exact .inr ⟨hb, fun _ => hbx⟩
  | false =>
    simp only [prefer, hbx, Bool.false_eq_true, if_false]
    constructor
    · rintro (⟨rfl, -⟩ | ⟨ha, hax⟩)
      · rfl
      · obtain rfl := hunique a ha
        exact absurd (hax hx) (Bool.eq_false_iff.1 hbx)
    · rintro rfl
      refine .inl ⟨rfl, hx, fun c hc hp => Bool.eq_false_iff.2 fun hcx => ?_⟩
      exact Bool.eq_false_iff.1 hbx (h.trans b c x (hb.le_of_mem h hc hp) hcx)

/-- A search of the sorted list finds the first of the least elements with the property. -/
theorem find?_sort_eq_some_iff (h : IsOrder le) :
    (sort le as).find? p = some a ↔ IsFirstLeast le p as a := by
  -- the last element is inserted last
  induction as using List.reverseRecOn generalizing a with
  | nil => simp [sort, IsFirstLeast]
  | append_singleton as x ih =>
    rw [sort_concat, find?_insert h p x (pairwise_sort h as)]
    cases hx : p x with
    | false =>
      rw [isFirstLeast_concat_iff]
      simp [hx, ih]
    | true =>
      rw [if_pos rfl, Option.some.injEq]
      cases hfound : (sort le as).find? p with
      | none =>
        have hnone (b : α) (hb : b ∈ as) : p b ≠ true :=
          List.find?_eq_none.1 hfound b ((mem_sort le).2 hb)
        exact (isFirstLeast_concat_of_none hx hnone).symm
      | some b =>
        have hunique (c : α) (hc : IsFirstLeast le p as c) : b = c :=
          Option.some.inj (hfound.symm.trans (ih.2 hc))
        exact (isFirstLeast_concat_of_some h hx (ih.1 hfound) hunique).symm

end Insertion

/-! ### The most specific registration -/

namespace Registration

variable {α : Type} {rs rs' : List (Registration α)} {r s : Registration α}
  {name : ExpandedName} {n : Nat}

/-- The registration is one of the name and covers the number of arguments. -/
def Serves (r : Registration α) (name : ExpandedName) (n : Nat) : Prop :=
  r.name = name ∧ r.minArity ≤ n ∧ n ≤ r.maxArity

instance (r : Registration α) (name : ExpandedName) (n : Nat) : Decidable (r.Serves name n) :=
  inferInstanceAs (Decidable (_ ∧ _ ∧ _))

/-- The range of `r` is narrower, or as narrow and starts earlier. -/
def Precedes (r s : Registration α) : Prop :=
  r.breadth < s.breadth ∨ r.breadth = s.breadth ∧ r.minArity < s.minArity

instance (r s : Registration α) : Decidable (r.Precedes s) :=
  inferInstanceAs (Decidable (_ ∨ _ ∧ _))

/-- Of the registrations that serve a name and a number of arguments, made in this order, `r` is the
most specific one, and the first of those with its range. -/
def IsMostSpecific (rs : List (Registration α)) (name : ExpandedName) (n : Nat)
    (r : Registration α) : Prop :=
  r.Serves name n ∧ ∃ before after, rs = before ++ r :: after ∧
    (∀ s ∈ before, s.Serves name n → r.Precedes s) ∧
      ∀ s ∈ after, s.Serves name n → ¬ s.Precedes r

theorem isOrder_le : Insertion.IsOrder (le (α := α)) where
  total a b := by
    simp only [le, Bool.or_eq_true, Bool.and_eq_true, beq_iff_eq, decide_eq_true_eq]
    omega
  trans a b c := by
    simp only [le, Bool.or_eq_true, Bool.and_eq_true, beq_iff_eq, decide_eq_true_eq]
    omega

theorem le_eq_false_iff : s.le r = false ↔ r.Precedes s := by
  simp only [le, Precedes, Bool.or_eq_false_iff, Bool.and_eq_false_iff, beq_eq_false_iff_ne,
    decide_eq_false_iff_not]
  omega

theorem le_eq_true_iff : r.le s = true ↔ ¬ s.Precedes r := by
  rw [← le_eq_false_iff, Bool.not_eq_false]

theorem serves_iff : (decide (r.name = name) && r.covers n) = true ↔ r.Serves name n := by
  simp [Serves, covers]

theorem isMostSpecific_iff : IsMostSpecific rs name n r ↔
    Insertion.IsFirstLeast le (fun s => decide (s.name = name) && s.covers n) rs r := by
  simp only [IsMostSpecific, Insertion.IsFirstLeast, serves_iff, le_eq_false_iff, le_eq_true_iff]

theorem IsMostSpecific.mem (h : IsMostSpecific rs name n r) : r ∈ rs :=
  (isMostSpecific_iff.1 h).mem

theorem IsMostSpecific.not_precedes (h : IsMostSpecific rs name n r) (hs : s ∈ rs)
    (hserves : s.Serves name n) : ¬ s.Precedes r :=
  le_eq_true_iff.1 ((isMostSpecific_iff.1 h).le_of_mem isOrder_le hs (serves_iff.2 hserves))

end Registration

namespace Registry

open Registration

variable {α : Type} {reg : Registry α} {rs rs' : List (Registration α)} {r s : Registration α}
  {name : ExpandedName} {n : Nat}

/-- What is found is the most specific registration. -/
theorem resolve_eq_ok_iff :
    reg.resolve name n = .ok r ↔ IsMostSpecific reg.registrations name n r := by
  have hfind : reg.resolve name n = .ok r ↔
      (reg.candidates name).find? (·.covers n) = some r := by
    unfold resolve
    split
    case h_1 hnil => simp [hnil]
    case h_2 => cases (reg.candidates name).find? (·.covers n) <;> simp
  rw [hfind, candidates, Insertion.find?_sort_eq_some_iff isOrder_le,
    Insertion.isFirstLeast_filter_iff, isMostSpecific_iff]

theorem exists_resolve_iff :
    (∃ r, reg.resolve name n = .ok r) ↔ ∃ r ∈ reg.registrations, r.Serves name n := by
  constructor
  · rintro ⟨r, hr⟩
    have hmost := resolve_eq_ok_iff.1 hr
    exact ⟨r, hmost.mem, hmost.1⟩
  · rintro ⟨r, hr, hname, hmin, hmax⟩
    exact exists_resolve_of_covers (reg.mem_candidates.2 ⟨hr, hname⟩)
      (by simp [covers, hmin, hmax])

/-! ### Refusals -/

theorem resolve_eq_unknown_iff :
    reg.resolve name n = .error (.unknown name) ↔ ∀ r ∈ reg.registrations, r.name ≠ name := by
  refine ⟨fun h r hr hname => ?_, resolve_of_unknown⟩
  have hne : reg.candidates name ≠ [] :=
    List.ne_nil_of_mem (reg.mem_candidates.2 ⟨hr, hname⟩)
  unfold resolve at h
  split at h
  case h_1 hnil => exact hne hnil
  case h_2 =>
    cases hfound : (reg.candidates name).find? (·.covers n) <;> simp [hfound] at h

theorem resolve_of_not_serves (hr : r ∈ reg.registrations) (hname : r.name = name)
    (hserves : ∀ s ∈ reg.registrations, ¬ s.Serves name n) :
    reg.resolve name n = .error (.wrongArity name (availableArities (reg.candidates name))) := by
  have hnone : (reg.candidates name).find? (·.covers n) = none := by
    refine List.find?_eq_none.2 fun s hs hcovers => ?_
    obtain ⟨hmem, hs⟩ := reg.mem_candidates.1 hs
    exact hserves s hmem (serves_iff.1 (by simp [hs, hcovers]))
  have hne : reg.candidates name ≠ [] :=
    List.ne_nil_of_mem (reg.mem_candidates.2 ⟨hr, hname⟩)
  unfold resolve
  split
  case h_1 hnil => exact absurd hnil hne
  case h_2 => rw [hnone]

theorem pairwise_availableArities (rs : List (Registration α)) :
    (availableArities rs).Pairwise (· < ·) := by
  have hsorted := Insertion.pairwise_sort Insertion.isOrder_nat (rs.flatMap (·.arities)).eraseDups
  have hnodup : (availableArities rs).Nodup :=
    (Insertion.sort_perm _ _).nodup_iff.2 (nodup_eraseDups _)
  exact (hsorted.and hnodup).imp fun h => Nat.lt_of_le_of_ne (of_decide_eq_true h.1) h.2

/-- The arities that are named are those at which the name is found. -/
theorem mem_availableArities_iff (hranges : ∀ r ∈ reg.registrations, r.minArity ≤ r.maxArity)
    (m : Nat) : m ∈ availableArities (reg.candidates name) ↔
      ∃ r, reg.resolve name m = .ok r := by
  have hmem : m ∈ availableArities (reg.candidates name) ↔
      ∃ r ∈ reg.candidates name, m ∈ r.arities := by
    simp [availableArities]
  rw [hmem, exists_resolve_iff]
  constructor
  · rintro ⟨r, hr, hm⟩
    obtain ⟨hr, hname⟩ := reg.mem_candidates.1 hr
    rw [r.mem_arities (hranges r hr)] at hm
    exact ⟨r, hr, serves_iff.1 (by simp [hname, hm])⟩
  · rintro ⟨r, hr, hname, hmin, hmax⟩
    refine ⟨r, reg.mem_candidates.2 ⟨hr, hname⟩, (r.mem_arities (hranges r hr) m).2 ?_⟩
    simp [covers, hmin, hmax]

/-- What a search without a result says. -/
theorem exists_wrongArity (hranges : ∀ r ∈ reg.registrations, r.minArity ≤ r.maxArity)
    (hr : r ∈ reg.registrations) (hname : r.name = name)
    (hserves : ∀ s ∈ reg.registrations, ¬ s.Serves name n) :
    ∃ ns, reg.resolve name n = .error (.wrongArity name ns) ∧ ns.Pairwise (· < ·) ∧
      ∀ m, m ∈ ns ↔ ∃ r, reg.resolve name m = .ok r :=
  ⟨_, resolve_of_not_serves hr hname hserves, pairwise_availableArities _,
    mem_availableArities_iff hranges⟩

/-! ### The order of registration -/

/-- The registrations of a name with a range, in order. -/
def ofRange (rs : List (Registration α)) (name : ExpandedName) (low high : Nat) :
    List (Registration α) :=
  rs.filter fun r => r.name = name ∧ r.minArity = low ∧ r.maxArity = high

@[simp] theorem mem_ofRange {low high : Nat} : r ∈ ofRange rs name low high ↔
    r ∈ rs ∧ r.name = name ∧ r.minArity = low ∧ r.maxArity = high := by
  simp [ofRange]

/-- For each range the registrations of the name are the same, in the same order. -/
def SameByRange (name : ExpandedName) (rs rs' : List (Registration α)) : Prop :=
  ∀ low high, ofRange rs name low high = ofRange rs' name low high

/-- The registrations of the name have different ranges. -/
def HasDistinctRanges (name : ExpandedName) (rs : List (Registration α)) : Prop :=
  (rs.filter fun r => r.name = name).Pairwise fun r s =>
    ¬ (r.minArity = s.minArity ∧ r.maxArity = s.maxArity)

theorem SameByRange.symm (h : SameByRange name rs rs') : SameByRange name rs' rs :=
  fun low high => (h low high).symm

theorem SameByRange.mem (h : SameByRange name rs rs') (hr : r ∈ rs) (hname : r.name = name) :
    r ∈ rs' := by
  have hrange : r ∈ ofRange rs name r.minArity r.maxArity := by simp [hr, hname]
  rw [h] at hrange
  exact (mem_ofRange.1 hrange).1

theorem sameByRange_of_perm (hperm : rs.Perm rs') (h : HasDistinctRanges name rs) :
    SameByRange name rs rs' := by
  intro low high
  have hsame : (ofRange rs name low high).Perm (ofRange rs' name low high) := hperm.filter _
  have hdistinct : (ofRange rs name low high).Pairwise fun r s =>
      ¬ (r.minArity = s.minArity ∧ r.maxArity = s.maxArity) := by
    have hrange := h.filter fun r => r.minArity = low ∧ r.maxArity = high
    rw [List.filter_filter] at hrange
    simpa [ofRange, and_comm, and_left_comm] using hrange
  -- at most one registration of the name has the range
  match hrs : ofRange rs name low high with
  | [] =>
    rw [hrs] at hsame
    exact hsame.nil_eq
  | [r] =>
    rw [hrs] at hsame
    exact (List.perm_singleton.1 hsame.symm).symm
  | r :: s :: rest =>
    have hr : r ∈ ofRange rs name low high := by simp [hrs]
    have hs : s ∈ ofRange rs name low high := by simp [hrs]
    obtain ⟨-, -, hlow, hhigh⟩ := mem_ofRange.1 hr
    obtain ⟨-, -, hlow', hhigh'⟩ := mem_ofRange.1 hs
    rw [hrs] at hdistinct
    have hne := (List.pairwise_cons.1 hdistinct).1 s List.mem_cons_self
    exact absurd ⟨hlow.trans hlow'.symm, hhigh.trans hhigh'.symm⟩ hne

theorem head?_ofRange (h : IsMostSpecific rs name n r) :
    (ofRange rs name r.minArity r.maxArity).head? = some r := by
  obtain ⟨hserves, before, after, rfl, hbefore, -⟩ := h
  have hnil : ofRange before name r.minArity r.maxArity = [] := by
    refine List.eq_nil_iff_forall_not_mem.2 fun s hs => ?_
    obtain ⟨hmem, hname, hlow, hhigh⟩ := mem_ofRange.1 hs
    have hprecedes := hbefore s hmem ⟨hname, hlow ▸ hserves.2.1, hhigh ▸ hserves.2.2⟩
    simp [Precedes, breadth, hlow, hhigh] at hprecedes
  rw [ofRange, List.filter_append, ← ofRange, hnil]
  simp [hserves.1]

/-- The first registration with its range is the most specific one if none comes before it in the
order. -/
theorem isMostSpecific_of_head? (hranges : ∀ s ∈ rs, s.minArity ≤ s.maxArity)
    (hserves : r.Serves name n) (hleast : ∀ s ∈ rs, s.Serves name n → ¬ s.Precedes r)
    (hfirst : (ofRange rs name r.minArity r.maxArity).head? = some r) :
    IsMostSpecific rs name n r := by
  obtain ⟨rest, hrest⟩ := List.head?_eq_some_iff.1 hfirst
  obtain ⟨before, after, rfl, hother, -, -⟩ := List.filter_eq_cons_iff.1 hrest
  refine ⟨hserves, before, after, rfl, fun s hs hsn => ?_, fun s hs => hleast s (by simp [hs])⟩
  have hnot := hleast s (by simp [hs]) hsn
  have hrange : ¬ (s.minArity = r.minArity ∧ s.maxArity = r.maxArity) := by
    have hs := hother s hs
    simp only [decide_eq_true_eq] at hs
    exact fun hrange => hs ⟨hsn.1, hrange⟩
  -- two ranges of one breadth and one start are the same
  have hs := hranges s (by simp [hs])
  have hr := hranges r (by simp)
  simp only [Precedes, breadth] at hnot ⊢
  omega

theorem isMostSpecific_of_sameByRange (hranges : ∀ r ∈ rs', r.minArity ≤ r.maxArity)
    (hsame : SameByRange name rs rs') (h : IsMostSpecific rs name n r) :
    IsMostSpecific rs' name n r := by
  refine isMostSpecific_of_head? hranges h.1 (fun s hs hsn => ?_) ?_
  · exact h.not_precedes (hsame.symm.mem hs hsn.1) hsn
  · rw [← hsame]
    exact head?_ofRange h

/-- Only the order of registrations with the same range counts. -/
theorem resolve_eq_of_sameByRange {reg reg' : Registry α}
    (hranges : ∀ r ∈ reg.registrations, r.minArity ≤ r.maxArity)
    (hranges' : ∀ r ∈ reg'.registrations, r.minArity ≤ r.maxArity)
    (hsame : SameByRange name reg.registrations reg'.registrations) :
    reg'.resolve name n = reg.resolve name n := by
  by_cases hname : ∃ r ∈ reg.registrations, r.name = name
  · obtain ⟨r, hr, hrname⟩ := hname
    have hok (m : Nat) (s : Registration α) :
        reg'.resolve name m = .ok s ↔ reg.resolve name m = .ok s := by
      rw [resolve_eq_ok_iff, resolve_eq_ok_iff]
      exact ⟨isMostSpecific_of_sameByRange hranges hsame.symm,
        isMostSpecific_of_sameByRange hranges' hsame⟩
    by_cases hfound : ∃ s, reg.resolve name n = .ok s
    · obtain ⟨s, hs⟩ := hfound
      rw [hs, (hok n s).2 hs]
    · have hserves : ∀ s ∈ reg.registrations, ¬ s.Serves name n := by
        intro s hs hsn
        exact hfound (exists_resolve_iff.2 ⟨s, hs, hsn⟩)
      have hserves' : ∀ s ∈ reg'.registrations, ¬ s.Serves name n := by
        intro s hs hsn
        exact hserves s (hsame.symm.mem hs hsn.1) hsn
      obtain ⟨ns, hns, hascending, hmem⟩ := exists_wrongArity hranges hr hrname hserves
      obtain ⟨ns', hns', hascending', hmem'⟩ :=
        exists_wrongArity hranges' (hsame.mem hr hrname) hrname hserves'
      -- both lists ascend and have the same members
      have heq : ns' = ns := by
        refine hascending'.eq_of_mem_iff hascending fun m => ?_
        rw [hmem, hmem']
        exact exists_congr (hok m)
      rw [hns, hns', heq]
  · have hnone : ∀ r ∈ reg.registrations, r.name ≠ name :=
      fun r hr hrname => hname ⟨r, hr, hrname⟩
    have hnone' : ∀ r ∈ reg'.registrations, r.name ≠ name :=
      fun r hr hrname => hnone r (hsame.symm.mem hr hrname) hrname
    rw [resolve_of_unknown hnone, resolve_of_unknown hnone']

/-! ### Sorting with each registration -/

theorem candidates_register_self (reg : Registry α) (r : Registration α) :
    (reg.register r).candidates r.name =
      Insertion.sort Registration.le (reg.candidates r.name ++ [r]) := by
  have hsorted := Insertion.sort_eq_self Registration.le (Insertion.pairwise_sort isOrder_le
    (reg.registrations.filter fun s => s.name = r.name))
  rw [Insertion.sort_concat]
  simp only [candidates, registrations_register, List.filter_append]
  rw [hsorted]
  simp [Insertion.sort_concat]

theorem candidates_register_of_ne (reg : Registry α) (h : r.name ≠ name) :
    (reg.register r).candidates name = reg.candidates name := by
  simp [candidates, h]

end Registry

namespace CandidateTable

variable {α : Type} {t : CandidateTable α} {reg : Registry α} {name : ExpandedName} {n : Nat}

/-- The table has the candidates of each name that has registrations. -/
structure Lists (t : CandidateTable α) (reg : Registry α) : Prop where
  unknown : ∀ name, (∀ r ∈ reg.registrations, r.name ≠ name) → t.candidates? name = none
  known : ∀ r ∈ reg.registrations, t.candidates? r.name = some (reg.candidates r.name)

theorem Lists.getD (h : t.Lists reg) (name : ExpandedName) :
    (t.candidates? name).getD [] = reg.candidates name := by
  by_cases hname : ∃ r ∈ reg.registrations, r.name = name
  · obtain ⟨r, hr, rfl⟩ := hname
    rw [h.known r hr]
    rfl
  · have hnone : ∀ r ∈ reg.registrations, r.name ≠ name :=
      fun r hr hrname => hname ⟨r, hr, hrname⟩
    have hnil : reg.candidates name = [] := by
      refine List.eq_nil_iff_forall_not_mem.2 fun r hr => ?_
      obtain ⟨hmem, hrname⟩ := reg.mem_candidates.1 hr
      exact hnone r hmem hrname
    rw [h.unknown name hnone, hnil]
    rfl

/-- The candidates of each name are kept sorted. -/
theorem Lists.register (h : t.Lists reg) (r : Registration α) :
    (t.register r).Lists (reg.register r) := by
  have hself : (t.register r).candidates? r.name =
      some ((reg.register r).candidates r.name) := by
    rw [candidates?_register, if_pos rfl, h.getD, Registry.candidates_register_self]
  constructor
  case unknown =>
    intro name hname
    rw [Registry.registrations_register] at hname
    have hne : name ≠ r.name := fun heq => hname r (by simp) heq.symm
    rw [candidates?_register, if_neg hne]
    exact h.unknown name fun s hs => hname s (List.mem_append_left _ hs)
  case known =>
    intro s hs
    by_cases hname : s.name = r.name
    · rw [hname]
      exact hself
    · have hs : s ∈ reg.registrations := by
        rw [Registry.registrations_register] at hs
        rcases List.mem_append.1 hs with hs | hs
        · exact hs
        · exact absurd (congrArg _ (List.mem_singleton.1 hs)) hname
      rw [candidates?_register, if_neg hname, h.known s hs,
        Registry.candidates_register_of_ne reg (Ne.symm hname)]

theorem lists_foldl (rs : List (Registration α)) (h : t.Lists reg) :
    (rs.foldl register t).Lists (rs.foldl .register reg) := by
  induction rs generalizing t reg with
  | nil => exact h
  | cons r rs ih => exact ih (h.register r)

theorem Lists.resolve_eq (h : t.Lists reg) (name : ExpandedName) (n : Nat) :
    t.resolve name n = reg.resolve name n := by
  by_cases hname : ∃ r ∈ reg.registrations, r.name = name
  · obtain ⟨r, hr, rfl⟩ := hname
    have hne : reg.candidates r.name ≠ [] :=
      List.ne_nil_of_mem (reg.mem_candidates.2 ⟨hr, rfl⟩)
    cases hc : reg.candidates r.name with
    | nil => exact absurd hc hne
    | cons s ss =>
      cases hfound : (s :: ss).find? (·.covers n) <;>
        simp [resolve, Registry.resolve, h.known r hr, hc, hfound]
  · have hnone : ∀ r ∈ reg.registrations, r.name ≠ name :=
      fun r hr hrname => hname ⟨r, hr, hrname⟩
    rw [resolve, h.unknown name hnone, Registry.resolve_of_unknown hnone]

end CandidateTable

namespace Registry

open Registration

variable {α : Type}

/-- After any registrations, a name without one is unknown; where some registration of the name
covers the number of arguments, the most specific one is found, whether the candidates are sorted
once or with each registration; otherwise the arities at which the name is found are told. Only the
order of registrations with the same range counts, so it makes no difference where the ranges are
distinct. -/
theorem resolve_after_registrations (rs : List (Registration α))
    (hranges : ∀ r ∈ rs, r.minArity ≤ r.maxArity) (name : ExpandedName) (n : Nat) :
    let table : CandidateTable α := rs.foldl .register {}
    let reg : Registry α := rs.foldl .register {}
    table.resolve name n = reg.resolve name n ∧
      (reg.resolve name n = .error (.unknown name) ↔ ∀ r ∈ rs, r.name ≠ name) ∧
      (∀ r, reg.resolve name n = .ok r ↔ IsMostSpecific rs name n r) ∧
      ((∃ r ∈ rs, r.Serves name n) → ∃ r, reg.resolve name n = .ok r) ∧
      ((∃ r ∈ rs, r.name = name) → (∀ r ∈ rs, ¬ r.Serves name n) →
        ∃ ns, reg.resolve name n = .error (.wrongArity name ns) ∧ ns.Pairwise (· < ·) ∧
          ∀ m, m ∈ ns ↔ ∃ r, reg.resolve name m = .ok r) ∧
      (∀ rs' : List (Registration α), (∀ r ∈ rs', r.minArity ≤ r.maxArity) →
        SameByRange name rs rs' ∨ rs.Perm rs' ∧ HasDistinctRanges name rs →
          (rs'.foldl register {}).resolve name n = reg.resolve name n) := by
  intro table reg
  have hregistrations (rs : List (Registration α)) :
      (rs.foldl register {}).registrations = rs := by
    simp
  have hreg : reg.registrations = rs := hregistrations rs
  have hstart : ({} : CandidateTable α).Lists {} := ⟨fun _ _ => rfl, by simp⟩
  refine ⟨(CandidateTable.lists_foldl rs hstart).resolve_eq name n, ?_, fun r => ?_, ?_, ?_, ?_⟩
  · rw [resolve_eq_unknown_iff, hreg]
  · rw [resolve_eq_ok_iff, hreg]
  · rw [exists_resolve_iff, hreg]
    exact id
  · rintro ⟨r, hr, hname⟩ hserves
    rw [← hreg] at hr hserves hranges
    exact exists_wrongArity hranges hr hname hserves
  · intro rs' hranges' horder
    have hsame : SameByRange name rs rs' := by
      rcases horder with hsame | ⟨hperm, hdistinct⟩
      · exact hsame
      · exact sameByRange_of_perm hperm hdistinct
    refine resolve_eq_of_sameByRange ?_ ?_ ?_
    · rwa [hreg]
    · rwa [hregistrations rs']
    · rwa [hreg, hregistrations rs']

/-- A wide range, two equally narrow ones within it, and the earlier of these once more. -/
def overlapping : List (Registration String) :=
  [⟨⟨none, "pad"⟩, 0, 3, "wide"⟩, ⟨⟨none, "pad"⟩, 2, 3, "late"⟩, ⟨⟨none, "pad"⟩, 1, 2, "early"⟩,
    ⟨⟨none, "pad"⟩, 1, 2, "twin"⟩]

theorem resolve_after_registrations_overlapping :
    (∀ r ∈ overlapping, r.minArity ≤ r.maxArity) ∧
      (overlapping.foldl CandidateTable.register {}).resolve ⟨none, "pad"⟩ 2 =
        .ok ⟨⟨none, "pad"⟩, 1, 2, "early"⟩ ∧
      ∃ ns, (overlapping.foldl register {}).resolve ⟨none, "pad"⟩ 4 =
        .error (.wrongArity ⟨none, "pad"⟩ ns) ∧ ∀ m, m ∈ ns ↔ m ≤ 3 := by
  have hranges : ∀ r ∈ overlapping, r.minArity ≤ r.maxArity := by decide
  obtain ⟨htable, -, hfound, -⟩ := resolve_after_registrations overlapping hranges ⟨none, "pad"⟩ 2
  obtain ⟨-, -, -, -, hnone, -⟩ := resolve_after_registrations overlapping hranges ⟨none, "pad"⟩ 4
  refine ⟨hranges, ?_, ?_⟩
  · rw [htable, hfound]
    exact ⟨by decide, overlapping.take 2, overlapping.drop 3, rfl, by decide, by decide⟩
  · obtain ⟨ns, hns, -, hmem⟩ := hnone ⟨_, List.mem_cons_self, rfl⟩ (by decide)
    refine ⟨ns, hns, fun m => ?_⟩
    rw [hmem, exists_resolve_iff]
    simp [overlapping, Serves]
    omega

end Registry

end XPathExtension
