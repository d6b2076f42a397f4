import Mathlib.Data.List.Induction
import Mathlib.Data.List.Lex
import XPathExtension.Node.Search

/-!
The search for an element keeps document order. The axis of a node and all that is below it is the
node and then, from the first child to the last, the axis of each child. What lies on a stack stands
for the axes of its nodes, the last one first; a step of the search does not change what comes first
on them, and makes the trees on the stack smaller.
-/

namespace XPathExtension

namespace Node

variable {n m c e : Node} {work : List Node}

/-! ### The axis -/

theorem size_le_sizeAll {t : Tree} {ts : List Tree} (h : t ∈ ts) : t.size ≤ Tree.sizeAll ts := by
  induction ts with
  | nil => cases h
  | cons u us ih =>
    rw [Tree.sizeAll]
    rcases List.mem_cons.1 h with rfl | h
    · omega
    · have hle := ih h
      omega

theorem size_lt_of_mem_children (h : c ∈ n.children) : c.tree.size < n.tree.size := by
  have hmem : c.tree ∈ n.tree.children := by
    rw [← map_tree_children]
    exact List.mem_map_of_mem h
  have hle := size_le_sizeAll hmem
  rw [n.tree.size_eq]
  omega

/-- The node and all nodes below it, each before those below it and these from left to right. -/
def descendantsOrSelf (n : Node) : List Node :=
  n :: n.children.attach.flatMap fun c => descendantsOrSelf c.val
termination_by n.tree.size
decreasing_by exact size_lt_of_mem_children c.property

theorem descendantsOrSelf_eq (n : Node) :
    n.descendantsOrSelf = n :: n.children.flatMap descendantsOrSelf := by
  rw [descendantsOrSelf]
  simp

/-- The node reached by going down to the children at the given places. -/
def below? (n : Node) (places : List Nat) : Option Node := n.follow? (places.map .toChild)

theorem below?_cons (n : Node) (i : Nat) (is : List Nat) :
    n.below? (i :: is) = n.children[i]?.bind (·.below? is) := rfl

/-- The nodes on the axis are those that are reached by going down. -/
theorem mem_descendantsOrSelf_iff : m ∈ n.descendantsOrSelf ↔ ∃ is, n.below? is = some m := by
  constructor
  · intro h
    induction n using descendantsOrSelf.induct with
    | case1 n ih =>
      rw [descendantsOrSelf_eq] at h
      rcases List.mem_cons.1 h with rfl | h
      · exact ⟨[], rfl⟩
      · obtain ⟨c, hc, hm⟩ := List.mem_flatMap.1 h
        obtain ⟨is, his⟩ := ih ⟨c, hc⟩ hm
        obtain ⟨i, hi⟩ := List.mem_iff_getElem?.1 hc
        exact ⟨i :: is, by rw [below?_cons, hi]; exact his⟩
  · rintro ⟨is, h⟩
    induction is generalizing n with
    | nil =>
      obtain rfl := Option.some.inj h
      rw [descendantsOrSelf_eq]
      exact List.mem_cons_self
    | cons i is ih =>
      obtain ⟨c, hc, h⟩ := Option.bind_eq_some_iff.1 h
      rw [descendantsOrSelf_eq]
      exact List.mem_cons_of_mem _ (List.mem_flatMap.2 ⟨c, List.mem_of_getElem? hc, ih h⟩)

/-! ### Places -/

theorem path_of_getElem? {i : Nat} (h : n.children[i]? = some c) :
    c.path = .toChild i :: n.path := by
  obtain ⟨t, ht, rfl⟩ :
      ∃ t, n.tree.children[i]? = some t ∧ ⟨t, ⟨n.tree, .toChild i⟩ :: n.above⟩ = c := by
    simpa [children, Option.map_eq_some_iff] using h
  rfl

theorem path_of_below? {is : List Nat} (h : n.below? is = some m) :
    m.path = (is.map Step.toChild).reverse ++ n.path := by
  induction is generalizing n with
  | nil =>
    obtain rfl := Option.some.inj h
    rfl
  | cons i is ih =>
    obtain ⟨c, hc, h⟩ := Option.bind_eq_some_iff.1 h
    rw [ih h, path_of_getElem? hc]
    simp

/-- A node is reached in one way only. -/
theorem below?_inj {is js : List Nat} (hi : n.below? is = some m) (hj : n.below? js = some m) :
    is = js := by
  have hpaths := (path_of_below? hi).symm.trans (path_of_below? hj)
  have hsteps := List.reverse_injective (List.append_cancel_right hpaths)
  exact List.map_injective_iff.2 (fun _ _ h => Step.toChild.inj h) hsteps

/-- The one node comes before the other one in the order of their places below `n`. -/
def Precedes (n m c : Node) : Prop :=
  ∃ is js, is < js ∧ n.below? is = some m ∧ n.below? js = some c

theorem Precedes.of_children {i : Nat} (hi : n.children[i]? = some c) {m m' : Node}
    (h : c.Precedes m m') : n.Precedes m m' := by
  obtain ⟨is, js, hlt, hm, hm'⟩ := h
  refine ⟨i :: is, i :: js, List.Lex.cons hlt, ?_, ?_⟩
  · rw [below?_cons, hi]
    exact hm
  · rw [below?_cons, hi]
    exact hm'

/-- The axis lists the nodes by their places. -/
theorem pairwise_descendantsOrSelf (n : Node) : n.descendantsOrSelf.Pairwise n.Precedes := by
  induction n using descendantsOrSelf.induct with
  | case1 n ih =>
    have hplace {i : Nat} {c m : Node} (hi : n.children[i]? = some c)
        (hm : m ∈ c.descendantsOrSelf) : ∃ is, n.below? (i :: is) = some m := by
      obtain ⟨is, his⟩ := mem_descendantsOrSelf_iff.1 hm
      exact ⟨is, by rw [below?_cons, hi]; exact his⟩
    rw [descendantsOrSelf_eq, List.pairwise_cons]
    constructor
    · intro m hm
      obtain ⟨c, hc, hm⟩ := List.mem_flatMap.1 hm
      obtain ⟨i, hi⟩ := List.mem_iff_getElem?.1 hc
      obtain ⟨is, his⟩ := hplace hi hm
      exact ⟨[], i :: is, List.Lex.nil, rfl, his⟩
    · rw [List.pairwise_flatMap]
      constructor
      · intro c hc
        obtain ⟨i, hi⟩ := List.mem_iff_getElem?.1 hc
        exact (ih ⟨c, hc⟩).imp (Precedes.of_children hi)
      · rw [List.pairwise_iff_getElem]
        intro i j hi hj hlt m hm m' hm'
        obtain ⟨is, his⟩ := hplace (List.getElem?_eq_getElem hi) hm
        obtain ⟨js, hjs⟩ := hplace (List.getElem?_eq_getElem hj) hm'
        exact ⟨i :: is, j :: js, List.Lex.rel hlt, his, hjs⟩

/-! ### The first element -/

/-- The first element of the axes of several nodes, one axis after the other. -/
def firstElementOf (work : List Node) : Option Node :=
  (work.flatMap descendantsOrSelf).find? fun m => decide (m.kind = .element)

theorem firstElementOf_cons (n : Node) (work : List Node) : firstElementOf (n :: work) =
    if n.kind = .element then some n else firstElementOf (n.children ++ work) := by
  unfold firstElementOf
  rw [List.flatMap_cons, descendantsOrSelf_eq, List.cons_append, List.find?_cons,
    List.flatMap_append]
  by_cases h : n.kind = .element <;> simp [h]

theorem firstElementIn?_eq (work : List Node) : firstElementIn? work = firstElementOf work := by
  fun_induction firstElementIn? work with
  | case1 => rfl
  | case2 n work h => rw [firstElementOf_cons, if_pos h]
  | case3 n work h ih => rw [firstElementOf_cons, if_neg h, ih]

theorem firstElement?_eq_firstElementOf (n : Node) : n.firstElement? = firstElementOf [n] := by
  rw [firstElement?, firstElementOf_cons, List.append_nil, firstElementIn?_eq]

theorem firstElement?_eq_find? (n : Node) :
    n.firstElement? = n.descendantsOrSelf.find? fun m => decide (m.kind = .element) := by
  rw [firstElement?_eq_firstElementOf, firstElementOf, List.flatMap_singleton]

theorem firstElement?_eq_none_iff :
    n.firstElement? = none ↔ ∀ m ∈ n.descendantsOrSelf, m.kind ≠ .element := by
  simp [firstElement?_eq_find?]

/-- An element that is found has no element before it. -/
theorem not_element_of_lt {is js : List Nat} (he : n.firstElement? = some e)
    (hi : n.below? is = some e) (hlt : js < is) (hj : n.below? js = some m) :
    m.kind ≠ .element := by
  rw [firstElement?_eq_find?] at he
  obtain ⟨-, before, after, hsplit, hbefore⟩ := List.find?_eq_some_iff_append.1 he
  have hordered := pairwise_descendantsOrSelf n
  have hm : m ∈ n.descendantsOrSelf := mem_descendantsOrSelf_iff.2 ⟨js, hj⟩
  rw [hsplit] at hordered hm
  rcases List.mem_append.1 hm with hm | hm
  · simpa using hbefore m hm
  · -- what follows the element, or is the element, has no place before it
    exfalso
    rcases List.mem_cons.1 hm with rfl | hm
    · exact absurd (below?_inj hi hj ▸ hlt) (lt_irrefl js)
    · obtain ⟨is', js', hlt', hi', hj'⟩ :=
        (List.pairwise_cons.1 (List.pairwise_append.1 hordered).2.1).1 m hm
      rw [below?_inj hi' hi, below?_inj hj' hj] at hlt'
      exact lt_asymm hlt hlt'

theorem kind_of_firstElement? (he : n.firstElement? = some e) : e.kind = .element := by
  rw [firstElement?_eq_find?] at he
  simpa using List.find?_some he

theorem mem_of_firstElement? (he : n.firstElement? = some e) : e ∈ n.descendantsOrSelf := by
  rw [firstElement?_eq_find?] at he
  exact List.mem_of_find?_eq_some he

/-- The element that is found is the one with the least places. -/
theorem firstElement?_eq_some_iff : n.firstElement? = some e ↔
    e.kind = .element ∧ ∃ is, n.below? is = some e ∧
      ∀ js m, js < is → n.below? js = some m → m.kind ≠ .element := by
  constructor
  · intro he
    obtain ⟨is, hi⟩ := mem_descendantsOrSelf_iff.1 (mem_of_firstElement? he)
    exact ⟨kind_of_firstElement? he, is, hi, fun js m hlt hj => not_element_of_lt he hi hlt hj⟩
  · rintro ⟨hkind, is, hi, hleast⟩
    have hsome : n.firstElement? ≠ none := fun hnone =>
      firstElement?_eq_none_iff.1 hnone e (mem_descendantsOrSelf_iff.2 ⟨is, hi⟩) hkind
    obtain ⟨f, hf⟩ := Option.ne_none_iff_exists'.1 hsome
    have hfkind := kind_of_firstElement? hf
    obtain ⟨js, hj⟩ := mem_descendantsOrSelf_iff.1 (mem_of_firstElement? hf)
    -- neither of the two comes before the other
    rcases lt_trichotomy js is with hlt | rfl | hlt
    · exact absurd hfkind (hleast js f hlt hj)
    · rw [hf, ← hj, hi]
    · exact absurd hkind (not_element_of_lt hf hj hlt hi)

end Node

/-! ### Searches -/

namespace Search

open Node (firstElementOf workload)

/-- What a search finds in the end. -/
def outcome : Search → Option Node
  | pending stack => firstElementOf stack.reverse
  | ended found => found

/-- How many steps a search still takes at most. -/
def bound : Search → Nat
  | pending stack => workload stack.reverse + 1
  | ended _ => 0

theorem step_nil : (pending []).step = ended none := rfl

theorem step_concat (stack : List Node) (n : Node) : (pending (stack ++ [n])).step =
    if n.kind = .element then ended (some n) else pending (stack ++ n.children.reverse) := by
  simp [step]

theorem outcome_step (s : Search) : s.step.outcome = s.outcome := by
  cases s with
  | ended found => rfl
  | pending stack =>
    cases stack using List.reverseRecOn with
    | nil => rfl
    | append_singleton stack n =>
      have hpop : (pending (stack ++ [n])).outcome = firstElementOf (n :: stack.reverse) := by
        simp [outcome]
      rw [step_concat, hpop, Node.firstElementOf_cons]
      by_cases h : n.kind = .element
      · rw [if_pos h, if_pos h]
        rfl
      · rw [if_neg h, if_neg h]
        simp [outcome]

theorem bound_step (stack : List Node) : (pending stack).step.bound < (pending stack).bound := by
  cases stack using List.reverseRecOn with
  | nil => simp [step_nil, bound]
  | append_singleton stack n =>
    have hpop : (pending (stack ++ [n])).bound = workload (n :: stack.reverse) + 1 := by
      simp [bound]
    rw [step_concat, hpop]
    by_cases h : n.kind = .element
    · rw [if_pos h]
      simp [bound]
    · rw [if_neg h]
      have hlt := n.workload_children_append_lt stack.reverse
      simpa [bound] using hlt

/-- Once the bound is reached the search is over, and it stays so. -/
theorem run_of_bound_le {k : Nat} {s : Search} (h : s.bound ≤ k) : s.run k = ended s.outcome := by
  induction k generalizing s with
  | zero =>
    cases s with
    | pending stack => exact absurd h (Nat.not_succ_le_zero _)
    | ended found => rfl
  | succ k ih =>
    have hstep : s.step.bound ≤ k := by
      cases s with
      | pending stack => exact Nat.lt_succ_iff.1 ((bound_step stack).trans_le h)
      | ended found => exact Nat.zero_le k
    rw [run, ih hstep, outcome_step]

theorem outcome_start (n : Node) : (start n).outcome = n.firstElement? := by
  rw [Node.firstElement?_eq_firstElementOf, Node.firstElementOf_cons, start]
  by_cases h : n.kind = .element
  · rw [if_pos h, if_pos h]
    rfl
  · rw [if_neg h, if_neg h]
    simp [outcome]

theorem bound_start_le (n : Node) : (start n).bound ≤ n.tree.size := by
  unfold start
  by_cases h : n.kind = .element
  · rw [if_pos h]
    exact Nat.zero_le _
  · rw [if_neg h]
    simp [bound, workload, n.tree.size_eq]

end Search

/-- The search for an element among a node and all that is below it. With a stack it is over after
at most as many steps as there are nodes, and then has what `firstElement?` gives: the first element
on the axis of the node, which is nothing if and only if there is no element on it. That axis is the
node and then the axes of its children from left to right. On it are the nodes that are reached by
going down from child to child, and an element is the first one if no other is reached by places
that come before its own. -/
theorem Node.firstElement?_in_document_order (n : Node) :
    (∀ k, n.tree.size ≤ k → (Search.start n).run k = .ended n.firstElement?) ∧
    n.firstElement? = (n.descendantsOrSelf.find? fun m => decide (m.kind = .element)) ∧
    (n.firstElement? = none ↔ ∀ m ∈ n.descendantsOrSelf, m.kind ≠ .element) ∧
    n.descendantsOrSelf = n :: n.children.flatMap descendantsOrSelf ∧
    (∀ m, m ∈ n.descendantsOrSelf ↔ ∃ is, n.below? is = some m) ∧
    ∀ e, n.firstElement? = some e ↔ e.kind = .element ∧ ∃ is, n.below? is = some e ∧
      ∀ js m, js < is → n.below? js = some m → m.kind ≠ .element := by
  refine ⟨fun k hk => ?_, n.firstElement?_eq_find?, firstElement?_eq_none_iff,
    n.descendantsOrSelf_eq, fun m => mem_descendantsOrSelf_iff,
    fun e => firstElement?_eq_some_iff⟩
  rw [← Search.outcome_start]
  exact Search.run_of_bound_le ((Search.bound_start_le n).trans hk)

end XPathExtension
