import Mathlib.Algebra.Order.Ring.Nat
import XPathExtension.Text.Blank
import XPathExtension.Text.Digits

/-!
Runs of decimal digits. The digits of a number have its value, with zeros in front as well, and a
run of digits is what a reader takes from the front of a text up to the first other character. Texts
without blanks are not changed by trimming.
-/

namespace XPathExtension.Text

/-- Decimal digits only. -/
def AreDigits (cs : List Char) : Prop := ∀ c ∈ cs, c.isDigit = true

/-- The text does not go on with a digit. -/
def EndsDigits (cs : List Char) : Prop := ∀ c ∈ cs.head?, c.isDigit = false

/-- There is no blank among the characters. -/
def IsUnblank (cs : List Char) : Prop := ∀ c ∈ cs, isBlank c = false

-- by the list, since the characters are finitely many and would be searched through otherwise
instance (cs : List Char) : Decidable (IsUnblank cs) :=
  decidable_of_iff (cs.all fun c => !isBlank c) (by simp [IsUnblank])

variable {cs ds r : List Char} {n w : Nat}

/-! ### Values of digits -/

@[simp] theorem digitsValue_toDigits (n : Nat) : digitsValue (Nat.toDigits 10 n) = n :=
  Nat.ofDigitChars_toDigits (by decide) (by decide)

theorem digitsValue_append_zeros (ds : List Char) (n : Nat) :
    digitsValue (ds ++ List.replicate n '0') = digitsValue ds * 10 ^ n := by
  change Nat.ofDigitChars 10 (ds ++ List.replicate n '0') 0 = Nat.ofDigitChars 10 ds 0 * 10 ^ n
  rw [Nat.ofDigitChars_append, Nat.ofDigitChars_replicate_zero, Nat.mul_comm]

theorem digitsValue_zeros_append (n : Nat) (ds : List Char) :
    digitsValue (List.replicate n '0' ++ ds) = digitsValue ds := by
  change Nat.ofDigitChars 10 (List.replicate n '0' ++ ds) 0 = Nat.ofDigitChars 10 ds 0
  rw [Nat.ofDigitChars_append, Nat.ofDigitChars_replicate_zero, Nat.mul_zero]

@[simp] theorem digitsValue_padded (w n : Nat) : digitsValue (padded w n) = n := by
  rw [padded, digitsValue_zeros_append, digitsValue_toDigits]

theorem length_padded (hw : 0 < w) (h : n < 10 ^ w) : (padded w n).length = w := by
  have hlength := (Nat.length_toDigits_le_iff (by decide) hw).2 h
  rw [padded, List.length_append, List.length_replicate]
  omega

/-! ### Runs of digits -/

theorem areDigits_toDigits (n : Nat) : AreDigits (Nat.toDigits 10 n) :=
  fun _ => Nat.isDigit_of_mem_toDigits (by decide) (by decide)

theorem areDigits_zeros (n : Nat) : AreDigits (List.replicate n '0') := by
  intro c hc
  obtain rfl := List.eq_of_mem_replicate hc
  rfl

theorem AreDigits.append (hd : AreDigits ds) (hr : AreDigits r) : AreDigits (ds ++ r) := by
  intro c hc
  rcases List.mem_append.1 hc with hc | hc
  · exact hd c hc
  · exact hr c hc

theorem areDigits_padded (w n : Nat) : AreDigits (padded w n) :=
  (areDigits_zeros _).append (areDigits_toDigits n)

theorem endsDigits_cons {c : Char} (h : c.isDigit = false) (r : List Char) :
    EndsDigits (c :: r) := by
  intro d hd
  obtain rfl := Option.some.inj hd
  exact h

theorem takeWhile_digits (hd : AreDigits ds) (hr : EndsDigits r) :
    (ds ++ r).takeWhile Char.isDigit = ds := by
  rw [List.takeWhile_append_of_pos hd]
  cases r with
  | nil => simp
  | cons c r => simp [hr c rfl]

theorem dropWhile_digits (hd : AreDigits ds) (hr : EndsDigits r) :
    (ds ++ r).dropWhile Char.isDigit = r := by
  rw [List.dropWhile_append_of_pos hd]
  cases r with
  | nil => rfl
  | cons c r => simp [hr c rfl]

theorem AreDigits.ne_cons {c : Char} (h : AreDigits ds) (hc : c.isDigit = false) (s : List Char) :
    ds ≠ c :: s := by
  rintro rfl
  rw [h c List.mem_cons_self] at hc
  cases hc

/-- A text that begins with digits does not begin with another character. -/
theorem AreDigits.append_ne_cons {c : Char} (h : AreDigits ds) (hne : ds ≠ [])
    (hc : c.isDigit = false) (r s : List Char) : ds ++ r ≠ c :: s := by
  obtain ⟨d, ds, rfl⟩ := List.exists_cons_of_ne_nil hne
  intro heq
  exact h.ne_cons hc ds (congrArg (· :: ds) (List.cons.inj heq).1)

theorem toNat_of_isDigit {c : Char} (h : c.isDigit = true) : 48 ≤ c.toNat ∧ c.toNat ≤ 57 := by
  simpa [Char.isDigit, UInt32.le_iff_toNat_le] using h

/-! ### Blanks -/

theorem isBlank_of_isDigit {c : Char} (h : c.isDigit = true) : isBlank c = false := by
  have hrange := toNat_of_isDigit h
  rw [Bool.eq_false_iff, ne_eq, isBlank, CharClass.contains_iff]
  rintro ⟨range, hmem, hlow, hhigh⟩
  simp only [blank, List.mem_cons, List.not_mem_nil, or_false] at hmem
  rcases hmem with rfl | rfl | rfl | rfl | rfl | rfl | rfl | rfl | rfl | rfl <;> dsimp only at * <;>
    omega

theorem AreDigits.isUnblank (h : AreDigits ds) : IsUnblank ds :=
  fun c hc => isBlank_of_isDigit (h c hc)

@[simp] theorem isUnblank_nil : IsUnblank [] := fun _ hc => absurd hc List.not_mem_nil

@[simp] theorem isUnblank_append : IsUnblank (cs ++ r) ↔ IsUnblank cs ∧ IsUnblank r :=
  List.forall_mem_append

@[simp] theorem isUnblank_cons {c : Char} :
    IsUnblank (c :: r) ↔ isBlank c = false ∧ IsUnblank r :=
  List.forall_mem_cons

theorem IsUnblank.trimLeft (h : IsUnblank cs) : trimLeft cs = cs := by
  cases cs with
  | nil => rfl
  | cons c r => exact List.dropWhile_cons_of_neg (by simp [h c])

theorem IsUnblank.trim (h : IsUnblank cs) : trim cs = cs := by
  have hreverse : IsUnblank cs.reverse := fun c hc => h c (List.mem_reverse.1 hc)
  rw [Text.trim, h.trimLeft, hreverse.trimLeft, List.reverse_reverse]

end XPathExtension.Text
