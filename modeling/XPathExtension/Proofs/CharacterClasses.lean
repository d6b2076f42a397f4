import Mathlib.Data.List.Chain
import Mathlib.Data.List.TakeWhile
import XPathExtension.Text.Alphabetic
import XPathExtension.Text.Blank

/-!
Classes of characters that do not meet. The tables of two classes are in ascending order, so that
one walk along both finds whether a range of the one meets a range of the other. No decimal digit is
alphabetic, and no blank is alphabetic or a numeral.
-/

namespace XPathExtension.Text

/-! ### Ranges -/

section Ranges

variable {r s : Nat × Nat} {rs rs' : List (Nat × Nat)}

/-- No range starts before the ones in front of it. -/
def IsAscending (rs : List (Nat × Nat)) : Prop := rs.IsChain fun r s => r.1 ≤ s.1

instance (rs : List (Nat × Nat)) : Decidable (IsAscending rs) :=
  inferInstanceAs (Decidable (rs.IsChain _))

/-- Walks along two ascending lists and checks that no range of the one meets one of the other. -/
def areApart : List (Nat × Nat) → List (Nat × Nat) → Bool
  | [], _ => true
  | r :: rs, rs' =>
    match rs'.dropWhile fun s => Nat.blt s.2 r.1 with
    | [] => true
    | s :: rest => Nat.blt r.2 s.1 && areApart rs (s :: rest)

theorem IsAscending.le_of_mem (h : IsAscending (r :: rs)) (hs : s ∈ r :: rs) : r.1 ≤ s.1 := by
  induction rs generalizing r with
  | nil =>
    obtain rfl := List.mem_singleton.1 hs
    exact Nat.le_refl _
  | cons t rs ih =>
    obtain ⟨hle, hrest⟩ := List.isChain_cons_cons.1 h
    rcases List.mem_cons.1 hs with rfl | hs
    · exact Nat.le_refl _
    · exact Nat.le_trans hle (ih hrest hs)

theorem apart_of_areApart (hrs : IsAscending rs) (hrs' : IsAscending rs')
    (h : areApart rs rs' = true) : ∀ r ∈ rs, ∀ s ∈ rs', r.2 < s.1 ∨ s.2 < r.1 := by
  induction rs generalizing rs' with
  | nil => exact nofun
  | cons r rs ih =>
    have hcut := List.takeWhile_append_dropWhile (p := fun s => Nat.blt s.2 r.1) (l := rs')
    -- what the walk leaves behind lies before `r`, and so before all that come after it
    have hbehind {t s : Nat × Nat} (ht : t ∈ r :: rs)
        (hs : s ∈ rs'.takeWhile fun s => Nat.blt s.2 r.1) : s.2 < t.1 := by
      have hbefore := List.mem_takeWhile_imp hs
      rw [Nat.blt_eq] at hbefore
      exact Nat.lt_of_lt_of_le hbefore (hrs.le_of_mem ht)
    intro t ht s hs
    rw [← hcut] at hs
    rcases List.mem_append.1 hs with htaken | hleft
    · exact .inr (hbehind ht htaken)
    rw [areApart] at h
    split at h
    case h_1 hnone =>
      rw [hnone] at hleft
      cases hleft
    case h_2 u rest hrest =>
      rw [hrest] at hleft hcut
      rw [Bool.and_eq_true, Nat.blt_eq] at h
      have hascending : IsAscending (u :: rest) := by
        rw [← hcut] at hrs'
        exact hrs'.right_of_append
      rcases List.mem_cons.1 ht with rfl | ht
      · exact .inl (Nat.lt_of_lt_of_le h.1 (hascending.le_of_mem hleft))
      · exact ih (List.isChain_of_isChain_cons hrs) hascending h.2 t ht s hleft

end Ranges

/-! ### Classes -/

/-- Checks that no character of the class is in one of the others. -/
def CharClass.isApartFrom (k : CharClass) (ks : List CharClass) : Bool :=
  ks.all fun k' => areApart k.ranges k'.ranges

/-- The classes that blanks and names of values and of declarations are made of. -/
def tables : List CharClass :=
  [letter, letterNumber, alphabeticMark, decimalDigit, otherNumber, blank]

theorem isAscending_of_mem_tables : ∀ k ∈ tables, IsAscending k.ranges := by decide +kernel

variable {k : CharClass} {ks : List CharClass} {c : Char}

theorem CharClass.not_contains_of_isApartFrom (hk : IsAscending k.ranges)
    (hks : ∀ k' ∈ ks, k' ∈ tables) (h : k.isApartFrom ks = true) (hc : k.contains c = true) :
    ∀ k' ∈ ks, k'.contains c = false := by
  intro k' hk'
  obtain ⟨r, hr, hlow, hhigh⟩ := (k.contains_iff c).1 hc
  rw [Bool.eq_false_iff, ne_eq, k'.contains_iff]
  rintro ⟨s, hs, hlow', hhigh'⟩
  have hascending := isAscending_of_mem_tables k' (hks k' hk')
  have hapart := apart_of_areApart hk hascending (List.all_eq_true.1 h k' hk') r hr s hs
  omega

theorem not_isAlphabetic_of_isApartFrom (hk : IsAscending k.ranges)
    (h : k.isApartFrom [letter, letterNumber, alphabeticMark] = true) (hc : k.contains c = true) :
    isAlphabetic c = false := by
  have hnot := CharClass.not_contains_of_isApartFrom hk (by simp [tables]) h hc
  rw [isAlphabetic, hnot letter (by simp), hnot letterNumber (by simp),
    hnot alphabeticMark (by simp)]
  rfl

theorem not_isNumeral_of_isApartFrom (hk : IsAscending k.ranges)
    (h : k.isApartFrom [decimalDigit, letterNumber, otherNumber] = true)
    (hc : k.contains c = true) : isNumeral c = false := by
  have hnot := CharClass.not_contains_of_isApartFrom hk (by simp [tables]) h hc
  rw [isNumeral, hnot decimalDigit (by simp), hnot letterNumber (by simp),
    hnot otherNumber (by simp)]
  rfl

/-- No decimal digit is alphabetic. -/
theorem not_isAlphabetic_of_isDecimalDigit (h : isDecimalDigit c = true) : isAlphabetic c = false :=
  not_isAlphabetic_of_isApartFrom (isAscending_of_mem_tables decimalDigit (by simp [tables]))
    (by decide +kernel) h

/-- No blank is alphabetic or a numeral. -/
theorem not_isAlphabetic_and_not_isNumeral_of_isBlank (h : isBlank c = true) :
    isAlphabetic c = false ∧ isNumeral c = false := by
  have hascending := isAscending_of_mem_tables blank (by simp [tables])
  exact ⟨not_isAlphabetic_of_isApartFrom hascending (by decide +kernel) h,
    not_isNumeral_of_isApartFrom hascending (by decide +kernel) h⟩

end XPathExtension.Text
