import XPathExtension.Conversion.Cast
import XPathExtension.Proofs.Digits

/-!
Integers as texts. A text spells an integer with decimal digits, after one sign or none, and a
number is written so. What is read as an integer is a text that spells one, or a sign plus and such
a text, which may have a sign of its own.
-/

namespace XPathExtension.Cast

open Text (AreDigits IsUnblank digitsValue)

/-- An integer as written: decimal digits, after one sign or none. -/
inductive SpellsInteger : List Char → Int → Prop
  | unsigned {ds : List Char} (hne : ds ≠ []) (hd : AreDigits ds) :
      SpellsInteger ds (digitsValue ds)
  | plus {ds : List Char} (hne : ds ≠ []) (hd : AreDigits ds) :
      SpellsInteger ('+' :: ds) (digitsValue ds)
  | minus {ds : List Char} (hne : ds ≠ []) (hd : AreDigits ds) :
      SpellsInteger ('-' :: ds) (-(digitsValue ds : Int))

variable {cs : List Char} {m : Int}

theorem readDigits?_eq_some_iff {n : Nat} :
    readDigits? cs = some n ↔ cs ≠ [] ∧ AreDigits cs ∧ digitsValue cs = n := by
  simp [readDigits?, AreDigits, and_assoc]

theorem readSigned?_eq_some_iff : readSigned? cs = some m ↔ SpellsInteger cs m := by
  constructor
  · intro h
    unfold readSigned? at h
    split at h
    all_goals
      obtain ⟨_, hcast, rfl⟩ := Option.map_eq_some_iff.1 h
      obtain ⟨n, hread, ⟨⟩⟩ := Option.bind_eq_some_iff.1 hcast
      obtain ⟨hne, hd, rfl⟩ := readDigits?_eq_some_iff.1 hread
    case h_1 => exact .minus hne hd
    case h_2 => exact .plus hne hd
    case h_3 => exact .unsigned hne hd
  · intro h
    cases h with
    | unsigned hne hd =>
      have hread := readDigits?_eq_some_iff.2 ⟨hne, hd, rfl⟩
      unfold readSigned?
      split
      case h_1 r => exact absurd rfl (hd.ne_cons rfl r)
      case h_2 r => exact absurd rfl (hd.ne_cons rfl r)
      case h_3 => simp [hread]
    | plus hne hd => simp [readSigned?, readDigits?_eq_some_iff.2 ⟨hne, hd, rfl⟩]
    | minus hne hd => simp [readSigned?, readDigits?_eq_some_iff.2 ⟨hne, hd, rfl⟩]

/-- A sign plus before an integer with a sign is passed over. -/
theorem readInteger?_eq_some_iff : readInteger? cs = some m ↔
    IsWide m ∧ (SpellsInteger cs m ∨ ∃ r, cs = '+' :: r ∧ SpellsInteger r m) := by
  unfold readInteger?
  dsimp only
  rw [Option.filter_eq_some_iff, decide_eq_true_eq, readSigned?_eq_some_iff, and_comm]
  refine and_congr_right fun _ => ?_
  split
  case h_1 r =>
    constructor
    · exact fun h => .inr ⟨r, rfl, h⟩
    · rintro (h | ⟨r', heq, h⟩)
      · cases h with
        | unsigned hne hd => exact absurd rfl (hd.ne_cons rfl r)
        | plus hne hd => exact .unsigned hne hd
      · obtain rfl := List.tail_eq_of_cons_eq heq
        exact h
  case h_2 hplus =>
    constructor
    · exact .inl
    · rintro (h | ⟨r, rfl, h⟩)
      · exact h
      · exact absurd rfl (hplus r)

theorem isWide_of_inRange {t : IntegralType} (h : t.InRange m) : IsWide m := by
  have hbounds : -(Nat.pow 2 127 : Int) ≤ t.least ∧ t.greatest < (Nat.pow 2 127 : Int) := by
    cases t <;> decide
  exact ⟨Int.le_trans hbounds.1 h.1, Int.lt_of_le_of_lt h.2 hbounds.2⟩

/-! ### Texts of numbers -/

/-- The text of an integer: its digits, after a minus sign if it is negative. -/
theorem toList_toString (n : Int) : (toString n).toList =
    if n < 0 then '-' :: Nat.toDigits 10 n.natAbs else Nat.toDigits 10 n.natAbs := by
  cases n with
  | ofNat m =>
    change (Nat.repr m).toList = _
    rw [if_neg (by simp), Nat.toList_repr]
    rfl
  | negSucc m =>
    change ("-" ++ Nat.repr (m + 1)).toList = _
    rw [if_pos (Int.negSucc_lt_zero m), String.toList_append, Nat.toList_repr]
    rfl

theorem spellsInteger_toString (n : Int) : SpellsInteger (toString n).toList n := by
  have hne : Nat.toDigits 10 n.natAbs ≠ [] := Nat.toDigits_ne_nil
  have hd := Text.areDigits_toDigits n.natAbs
  rw [toList_toString]
  split
  case isTrue hnegative =>
    have hvalue : -(n.natAbs : Int) = n := by omega
    have h := SpellsInteger.minus hne hd
    rwa [Text.digitsValue_toDigits, hvalue] at h
  case isFalse hpositive =>
    have hvalue : (n.natAbs : Int) = n := by omega
    have h := SpellsInteger.unsigned hne hd
    rwa [Text.digitsValue_toDigits, hvalue] at h

theorem SpellsInteger.isUnblank (h : SpellsInteger cs m) : IsUnblank cs := by
  cases h with
  | unsigned hne hd => exact hd.isUnblank
  | plus hne hd => exact Text.isUnblank_cons.2 ⟨by decide, hd.isUnblank⟩
  | minus hne hd => exact Text.isUnblank_cons.2 ⟨by decide, hd.isUnblank⟩

end XPathExtension.Cast
