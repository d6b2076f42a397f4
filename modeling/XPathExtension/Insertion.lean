/-!
Sorting by insertion. A new element goes after all elements that are not greater, so elements that
are equal in the order keep the order in which they came.
-/

namespace XPathExtension.Insertion

variable {α : Type} (le : α → α → Bool)

/-- Insert into a sorted list, after the elements that are not greater. -/
def insert (a : α) : List α → List α
  | [] => [a]
  | b :: bs => if le b a then b :: insert a bs else a :: b :: bs

def sort (as : List α) : List α := as.foldl (fun sorted a => insert le a sorted) []

theorem insert_perm (a : α) (bs : List α) : (insert le a bs).Perm (a :: bs) := by
  induction bs with
  | nil => exact .refl _
  | cons b bs ih =>
    unfold insert
    split
    · exact (ih.cons b).trans (.swap a b bs)
    · exact .refl _

theorem sort_perm (as : List α) : (sort le as).Perm as := by
  have h (as sorted : List α) :
      (as.foldl (fun sorted a => insert le a sorted) sorted).Perm (sorted ++ as) := by
    induction as generalizing sorted with
    | nil => simp
    | cons a as ih =>
      exact (ih _).trans (((insert_perm le a sorted).append_right as).trans
        List.perm_middle.symm)
  have h0 := h as []
  rwa [List.nil_append] at h0

@[simp] theorem mem_sort {a : α} {as : List α} : a ∈ sort le as ↔ a ∈ as :=
  (sort_perm le as).mem_iff

@[simp] theorem length_sort (as : List α) : (sort le as).length = as.length :=
  (sort_perm le as).length_eq

/-- The order puts any two elements in one order or the other, and is transitive. -/
structure IsOrder (le : α → α → Bool) : Prop where
  total : ∀ a b, le a b = true ∨ le b a = true
  trans : ∀ a b c, le a b = true → le b c = true → le a c = true

theorem pairwise_insert {le : α → α → Bool} (h : IsOrder le) (a : α) {bs : List α}
    (hbs : bs.Pairwise fun x y => le x y = true) :
    (insert le a bs).Pairwise fun x y => le x y = true := by
  induction bs with
  | nil => simp [insert]
  | cons b bs ih =>
    obtain ⟨hb, hbs⟩ := List.pairwise_cons.1 hbs
    by_cases hba : le b a = true
    · rw [insert, if_pos hba, List.pairwise_cons]
      refine ⟨fun x hx => ?_, ih hbs⟩
      rcases List.mem_cons.1 ((insert_perm le a bs).mem_iff.1 hx) with rfl | hx
      · exact hba
      · exact hb x hx
    · have hab : le a b = true := (h.total a b).resolve_right hba
      rw [insert, if_neg hba, List.pairwise_cons]
      refine ⟨fun x hx => ?_, List.pairwise_cons.2 ⟨hb, hbs⟩⟩
      rcases List.mem_cons.1 hx with rfl | hx
      · exact hab
      · exact h.trans a b x hab (hb x hx)

theorem pairwise_sort {le : α → α → Bool} (h : IsOrder le) (as : List α) :
    (sort le as).Pairwise fun x y => le x y = true := by
  have hf (as sorted : List α) (hs : sorted.Pairwise fun x y => le x y = true) :
      (as.foldl (fun sorted a => insert le a sorted) sorted).Pairwise
        fun x y => le x y = true := by
    induction as generalizing sorted with
    | nil => exact hs
    | cons a as ih => exact ih _ (pairwise_insert h a hs)
  exact hf as [] .nil

theorem sort_concat (as : List α) (a : α) : sort le (as ++ [a]) = insert le a (sort le as) := by
  rw [sort, List.foldl_append]
  rfl

theorem insert_eq_concat {a : α} {bs : List α} (h : ∀ b ∈ bs, le b a = true) :
    insert le a bs = bs ++ [a] := by
  induction bs with
  | nil => rfl
  | cons b bs ih =>
    obtain ⟨hb, hbs⟩ := List.forall_mem_cons.1 h
    rw [insert, if_pos hb, ih hbs, List.cons_append]

/-- A sorted list stays as it is. -/
theorem sort_eq_self {as : List α} (h : as.Pairwise fun x y => le x y = true) :
    sort le as = as := by
  have hf (as sorted : List α) (hs : (sorted ++ as).Pairwise fun x y => le x y = true) :
      as.foldl (fun sorted a => insert le a sorted) sorted = sorted ++ as := by
    induction as generalizing sorted with
    | nil => simp
    | cons a as ih =>
      have hlast : insert le a sorted = sorted ++ [a] :=
        insert_eq_concat le fun b hb =>
          (List.pairwise_append.1 hs).2.2 b hb a List.mem_cons_self
      rw [List.append_cons] at hs
      rw [List.foldl_cons, hlast, ih _ hs]
      exact (List.append_cons sorted a as).symm
  exact hf as [] h

/-- Which of an element found before and a new one comes first. -/
def prefer (a : α) : Option α → α
  | none => a
  | some b => if le b a then b else a

/-- What a search of a sorted list finds changes with a new element only if the element is found
before it. -/
theorem find?_insert {le : α → α → Bool} (h : IsOrder le) (p : α → Bool) (a : α) {bs : List α}
    (hbs : bs.Pairwise fun x y => le x y = true) :
    (insert le a bs).find? p =
      if p a then some (prefer le a (bs.find? p)) else bs.find? p := by
  induction bs with
  | nil => cases hp : p a <;> simp [insert, prefer, hp]
  | cons b bs ih =>
    obtain ⟨hb, hbs⟩ := List.pairwise_cons.1 hbs
    by_cases hba : le b a = true
    · rw [insert, if_pos hba, List.find?_cons, List.find?_cons, ih hbs]
      cases hpb : p b with
      | true => simp [prefer, hba]
      | false => rfl
    · rw [insert, if_neg hba, List.find?_cons]
      cases hpa : p a with
      | false => rfl
      | true =>
        have hafter : ∀ x ∈ b :: bs, le x a = false := by
          intro x hx
          rcases List.mem_cons.1 hx with rfl | hx
          · exact Bool.eq_false_iff.2 hba
          · exact Bool.eq_false_iff.2 fun hxa => hba (h.trans b x a (hb x hx) hxa)
        cases hfound : (b :: bs).find? p with
        | none => rfl
        | some x => simp [prefer, hafter x (List.mem_of_find?_eq_some hfound)]

theorem isOrder_nat : IsOrder fun a b : Nat => decide (a ≤ b) where
  total a b := by simpa using Nat.le_total a b
  trans a b c hab hbc := by
    simp only [decide_eq_true_eq] at *
    exact Nat.le_trans hab hbc

end XPathExtension.Insertion
