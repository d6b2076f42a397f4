import Mathlib.Data.Rat.Floor
import XPathExtension.Proofs.IntegerTexts
import XPathExtension.Proofs.NativeTyping
import XPathExtension.Proofs.Reading
import XPathExtension.Proofs.Widening

/-!
Casts to integral types. A number is cast to its integer part, exactly where that is in the range of
the type, and the native word and the atomic value are that integer: nothing is wrapped around or
cut off at the ends of a range. The bound above which no binary number is taken for an integer lies
outside all ranges. A text is cast to the integer that its digits and its sign spell; one sign plus
more than an integer needs is passed over.
-/

namespace XPathExtension

/-! ### Exact values and integer parts -/

namespace Binary

/-- The integer part of an exact value, toward zero. -/
def integerPart (x : ℚ) : ℤ := if 0 ≤ x then ⌊x⌋ else ⌈x⌉

theorem integerPart_intCast (n : ℤ) : integerPart n = n := by
  simp [integerPart]

theorem integerPart_neg (x : ℚ) : integerPart (-x) = -integerPart x := by
  unfold integerPart
  rcases lt_trichotomy x 0 with h | rfl | h
  · rw [if_pos (by linarith), if_neg (by linarith), Int.floor_neg]
  · simp
  · rw [if_neg (by linarith), if_pos (by linarith), Int.ceil_neg]

/-- The exact value of a finite number. -/
def value? {f : Format} : Binary f → Option ℚ
  | .finite negative k =>
    let x := (magnitudeAt f k).value
    some (if negative then -x else x)
  | _ => none

variable {f g : Format}

theorem Magnitude.integerPart_value (v : Magnitude) :
    integerPart v.value = ((if 0 ≤ v.exponent then v.significand * Nat.pow 2 v.exponent.toNat
      else v.significand / Nat.pow 2 (-v.exponent).toNat : Nat) : ℤ) := by
  obtain ⟨s, e⟩ := v
  have hpos : 0 ≤ value ⟨s, e⟩ := by unfold value; positivity
  rw [integerPart, if_pos hpos, value]
  dsimp only
  split
  case isTrue he =>
    obtain ⟨n, rfl⟩ := Int.eq_ofNat_of_zero_le he
    rw [Int.toNat_natCast, zpow_natCast]
    exact_mod_cast Int.floor_natCast (s * 2 ^ n)
  case isFalse he =>
    obtain ⟨n, rfl⟩ : ∃ n : Nat, e = -n := ⟨(-e).toNat, by omega⟩
    rw [neg_neg, Int.toNat_natCast, zpow_neg, zpow_natCast, ← div_eq_mul_inv]
    exact_mod_cast Rat.floor_natCast_div_natCast s (2 ^ n)

/-- Truncation gives the integer part of the exact value. -/
theorem truncate?_eq (d : Binary f) : d.truncate? = d.value?.map integerPart := by
  cases d with
  | nan => rfl
  | infinite negative => rfl
  | finite negative k =>
    cases negative with
    | false => simp [truncate?, value?, Magnitude.integerPart_value]
    | true => simp [truncate?, value?, integerPart_neg, Magnitude.integerPart_value]

theorem value?_convert (h : f.Within g) (x : Binary f) : (x.convert g).value? = x.value? := by
  cases x with
  | nan => rfl
  | infinite negative => rfl
  | finite negative k =>
    obtain ⟨j, hwide, hvalue⟩ := exists_convert h negative k
    rw [hwide, value?, value?, hvalue]

end Binary

open Binary (integerPart)

/-- The exact value of a number or a truth value, if it is finite. -/
def AtomicValue.value? : AtomicValue → Option ℚ
  | boolean b => some (if b then 1 else 0)
  | decimal d | double d => d.value?
  | float x => x.value?
  | integral _ n => some n.val
  | _ => none

/-! ### Words -/

/-- The native value is an integer, as a word without a sign if the values of the type have none. -/
def NativeValue.IsWord (t : IntegralType) (m : Int) : NativeValue → Prop
  | .int n => t.isUnsigned = false ∧ n.val = m
  | .uint n => t.isUnsigned = true ∧ n.val = m
  | _ => False

namespace NativeValue

variable {t : IntegralType} {n : NativeValue} {m : Int}

theorem isWord_iff (h : t.InRange m) : n.IsWord t m ↔ n = ofIntegral t ⟨m, h⟩ := by
  unfold ofIntegral
  split
  case isTrue ht =>
    cases n with
    | uint k =>
      constructor
      · rintro ⟨-, rfl⟩
        rfl
      · intro hn
        cases hn
        exact ⟨ht, rfl⟩
    | _ => simp [IsWord, ht]
  case isFalse ht =>
    cases n with
    | int k =>
      constructor
      · rintro ⟨-, rfl⟩
        rfl
      · intro hn
        cases hn
        exact ⟨by simpa using ht, rfl⟩
    | _ => simp [IsWord, ht]

end NativeValue

namespace Cast

variable {v : AtomicValue} {t : IntegralType} {ns : Namespaces}

theorem toNative_integral_eq_ok_iff {n : NativeValue} :
    toNative v (.integral t) ns = .ok n ↔
      ∃ m, toInteger v t = .ok m ∧ t.InRange m ∧ n.IsWord t m := by
  change NativeValue.ofIntegral t <$> toIntegral v t = .ok n ↔ _
  rw [Outcome.map_eq_ok_iff]
  constructor
  · rintro ⟨k, hk, rfl⟩
    exact ⟨k.val, toIntegral_eq_ok_iff.1 hk, k.property,
      (NativeValue.isWord_iff k.property).2 rfl⟩
  · rintro ⟨m, hm, hrange, hn⟩
    exact ⟨⟨m, hrange⟩, toIntegral_eq_ok_iff.2 hm, ((NativeValue.isWord_iff hrange).1 hn).symm⟩

/-- The fault of a cast is one on the way to the integer, or the integer is out of range. -/
theorem toNative_integral_eq_error_iff {e : CastError} :
    toNative v (.integral t) ns = .error e ↔ toInteger v t = .error e ∨
      ∃ m, toInteger v t = .ok m ∧ ¬ t.InRange m ∧ e = .outOfRange m t := by
  change NativeValue.ofIntegral t <$> toIntegral v t = .error e ↔ _
  simp only [toIntegral, Outcome.map_eq_error_iff, Outcome.bind_eq_error_iff, IntegralType.ofInt?]
  refine or_congr_right (exists_congr fun m => and_congr_right fun _ => ?_)
  by_cases hrange : t.InRange m <;> simp [hrange, eq_comm]

end Cast

/-- An atomic value is built from each integer in the range of its type, and from no other. -/
theorem AtomicValue.ofNative_integral_eq_ok_iff {t : IntegralType} {n : NativeValue}
    {u : AtomicValue} : ofNative (.integral t) n = .ok u ↔
      ∃ m : t.Value, n.toInteger = .ok m.val ∧ u = .integral t m := by
  rw [ofNative, Outcome.bind_eq_ok_iff]
  constructor
  · rintro ⟨m, hm, hu⟩
    split at hu
    case h_1 k hsome =>
      obtain rfl := IntegralType.ofInt?_eq_some_iff.1 hsome
      exact ⟨k, hm, (Except.ok.inj hu).symm⟩
    case h_2 => cases hu
  · rintro ⟨m, hm, rfl⟩
    exact ⟨m.val, hm, by rw [IntegralType.ofInt?_val]⟩

/-! ### Numbers -/

namespace Cast

variable {v : AtomicValue} {t : IntegralType} {ns : Namespaces}

/-- The ways in which a number gives an integer or none. -/
inductive Truncates (v : AtomicValue) (t : IntegralType) : Except CastError Int → Prop
  | whole {x : ℚ} (h : v.value? = some x) : Truncates v t (.ok (integerPart x))
  | tooLarge {x : ℚ} (h : v.value? = some x)
      (hlarge : integerBound ≤ (integerPart x).natAbs) :
      Truncates v t (.error (.notInLexicalSpace v (.integral t)))
  | notFinite (h : v.value? = none) : Truncates v t (.error (.notFinite v t))

theorem natAbs_lt_of_inRange {m : Int} (h : t.InRange m) : m.natAbs < integerBound := by
  have hbounds : -integerBound < t.least ∧ t.greatest < integerBound := by
    cases t <;> decide
  have hlow := h.1
  have hhigh := h.2
  omega

section Binary

variable {d : Binary64} (hd : v.number? = some (.binary d))
include hd

theorem toInteger_of_truncate?_none (hn : d.truncate? = none) :
    toInteger v t = .error (.notFinite v t) := by
  cases v <;> cases hd <;> simp only [toInteger, AtomicValue.number?, hn]

theorem toInteger_of_truncate?_some {n : Int} (hn : d.truncate? = some n) :
    toInteger v t = if n.natAbs < integerBound then .ok n
      else .error (.notInLexicalSpace v (.integral t)) := by
  cases v <;> cases hd <;> simp only [toInteger, AtomicValue.number?, hn]

theorem truncates_binary (hvalue : v.value? = d.value?) : Truncates v t (toInteger v t) := by
  have htruncate : d.truncate? = v.value?.map integerPart := by rw [d.truncate?_eq, hvalue]
  cases hv : v.value? with
  | none =>
    rw [hv, Option.map_none] at htruncate
    rw [toInteger_of_truncate?_none hd htruncate]
    exact .notFinite hv
  | some x =>
    rw [hv, Option.map_some] at htruncate
    rw [toInteger_of_truncate?_some hd htruncate]
    split
    case isTrue => exact .whole hv
    case isFalse hlarge => exact .tooLarge hv (Int.not_lt.1 hlarge)

end Binary

theorem truncates_toInteger (hv : v.type.isNumeric = true ∨ v.type = .boolean) :
    Truncates v t (toInteger v t) := by
  cases v with
  | boolean b =>
    have hpart : integerPart (if b then 1 else 0) = if b then 1 else 0 := by
      cases b <;> simp [integerPart]
    have h : Truncates (.boolean b) t (.ok (integerPart (if b then 1 else 0))) := .whole rfl
    rw [hpart] at h
    exact h
  | integral k n =>
    have h : Truncates (.integral k n) t (.ok (integerPart n.val)) := .whole rfl
    rw [Binary.integerPart_intCast] at h
    exact h
  | decimal d => exact truncates_binary rfl rfl
  | double d => exact truncates_binary rfl rfl
  | float x => exact truncates_binary rfl (Binary.value?_convert Binary.Format.within_binary64 x).symm
  | _ => simp [AtomicValue.type, AtomicType.isNumeric] at hv

section Numbers

variable (hv : v.type.isNumeric = true ∨ v.type = .boolean)
include hv

theorem toInteger_eq_ok_iff_of_number {m : Int} (hm : m.natAbs < integerBound) :
    toInteger v t = .ok m ↔ ∃ x, v.value? = some x ∧ integerPart x = m := by
  have h := truncates_toInteger (t := t) hv
  constructor
  · intro hok
    rw [hok] at h
    obtain ⟨hx⟩ := h
    exact ⟨_, hx, rfl⟩
  · rintro ⟨x, hx, rfl⟩
    generalize toInteger v t = out at h
    cases h with
    | whole hy => rw [Option.some.inj (hy.symm.trans hx)]
    | tooLarge hy hlarge =>
      rw [Option.some.inj (hy.symm.trans hx)] at hlarge
      omega
    | notFinite hnone => cases hnone.symm.trans hx

theorem code_of_toNative_number {e : CastError} (he : toNative v (.integral t) ns = .error e) :
    e.code = if v.value? = none then .foca0002 else .forg0001 := by
  have h := truncates_toInteger (t := t) hv
  rcases toNative_integral_eq_error_iff.1 he with he | ⟨m, hm, -, rfl⟩
  · rw [he] at h
    cases h with
    | tooLarge hx => simp [hx, CastError.code]
    | notFinite hnone => simp [hnone, CastError.code]
  · rw [hm] at h
    obtain ⟨hx⟩ := h
    simp [hx, CastError.code]

/-- The cast of a number or a truth value to an integral type. It succeeds exactly for a finite
value with its integer part in the range of the type, and gives that integer. Of the other values
those that are not finite have a code of their own. The integer is also what the atomic value built
from the native one is, and no atomic value is built from an integer outside the range. -/
theorem toNative_integral_of_number (t : IntegralType) (ns : Namespaces) :
    (∀ n, toNative v (.integral t) ns = .ok n ↔
      ∃ x, v.value? = some x ∧ t.InRange (integerPart x) ∧ n.IsWord t (integerPart x)) ∧
    (∀ e, toNative v (.integral t) ns = .error e →
      e.code = if v.value? = none then .foca0002 else .forg0001) ∧
    (∀ n, toNative v (.integral t) ns = .ok n → ∃ m : t.Value,
      v.value?.map integerPart = some m.val ∧
        AtomicValue.ofNative (.integral t) n = .ok (.integral t m)) ∧
    ∀ n u, AtomicValue.ofNative (.integral t) n = .ok u ↔
      ∃ m : t.Value, n.toInteger = .ok m.val ∧ u = .integral t m := by
  have hok (n : NativeValue) : toNative v (.integral t) ns = .ok n ↔
      ∃ x, v.value? = some x ∧ t.InRange (integerPart x) ∧ n.IsWord t (integerPart x) := by
    rw [toNative_integral_eq_ok_iff]
    constructor
    · rintro ⟨m, hm, hrange, hn⟩
      obtain ⟨x, hx, rfl⟩ :=
        (toInteger_eq_ok_iff_of_number hv (natAbs_lt_of_inRange hrange)).1 hm
      exact ⟨x, hx, hrange, hn⟩
    · rintro ⟨x, hx, hrange, hn⟩
      exact ⟨integerPart x, (toInteger_eq_ok_iff_of_number hv (natAbs_lt_of_inRange hrange)).2
        ⟨x, hx, rfl⟩, hrange, hn⟩
  refine ⟨hok, fun e => code_of_toNative_number hv, ?_,
    fun n u => AtomicValue.ofNative_integral_eq_ok_iff⟩
  intro n hn
  obtain ⟨x, hx, hrange, hword⟩ := (hok n).1 hn
  refine ⟨⟨integerPart x, hrange⟩, by rw [hx]; rfl, ?_⟩
  rw [AtomicValue.ofNative_integral_eq_ok_iff, (NativeValue.isWord_iff hrange).1 hword]
  exact ⟨_, NativeValue.toInteger_ofIntegral _ _, rfl⟩

end Numbers

/-- Three quarters below zero have the integer part zero, which types without a sign have. -/
theorem toNative_integral_of_number_fraction :
    (AtomicValue.decimal (.ofRatio .binary64 true 3 4)).type.isNumeric = true ∧
      (AtomicValue.decimal (.ofRatio .binary64 true 3 4)).value? = some (-3 / 4) ∧
      toNative (.decimal (.ofRatio .binary64 true 3 4)) (.integral .unsignedByte) .empty =
        .ok (.uint ⟨0, by decide⟩) ∧
      AtomicValue.ofNative (.integral .unsignedByte) (.uint ⟨0, by decide⟩) =
        .ok (.integral .unsignedByte ⟨0, by decide⟩) := by
  have hvalue : (AtomicValue.decimal (.ofRatio .binary64 true 3 4)).value? = some (-3 / 4) := by
    decide +kernel
  have hpart : integerPart (-3 / 4) = 0 := by decide +kernel
  obtain ⟨hok, -, -, hnarrow⟩ := toNative_integral_of_number
    (v := .decimal (.ofRatio .binary64 true 3 4)) (.inl rfl) .unsignedByte .empty
  refine ⟨rfl, hvalue, (hok _).2 ⟨_, hvalue, ?_⟩, (hnarrow _ _).2 ⟨⟨0, by decide⟩, rfl, rfl⟩⟩
  rw [hpart]
  exact ⟨by decide, rfl, rfl⟩

/-! ### Texts -/

variable {m : Int}

theorem toInteger_eq_readInteger? (k : TextType) (s : String) (t : IntegralType) :
    toInteger (.text k s) t = match readInteger? (Text.trim s.toList) with
      | some m => .ok m
      | none => .error (.notInLexicalSpace (.text k s) (.integral t)) := rfl

theorem toInteger_text_eq_ok_iff {k : TextType} {s : String} :
    toInteger (.text k s) t = .ok m ↔ readInteger? (Text.trim s.toList) = some m := by
  rw [toInteger_eq_readInteger?]
  cases readInteger? (Text.trim s.toList) <;> simp

theorem code_of_toInteger_text {k : TextType} {s : String} {e : CastError}
    (h : toInteger (.text k s) t = .error e) : e.code = .forg0001 := by
  rw [toInteger_eq_readInteger?] at h
  split at h
  case h_1 => cases h
  case h_2 =>
    obtain rfl := Except.error.inj h
    rfl

/-- The cast of a text to an integral type. It succeeds exactly if the text without the blanks
around it spells an integer in the range of the type, or is a sign plus and such a text, and gives
that integer. -/
theorem toNative_integral_text (k : TextType) (s : String) (t : IntegralType) (ns : Namespaces) :
    (∀ n, toNative (.text k s) (.integral t) ns = .ok n ↔ ∃ cs m, Text.IsTrimmed s.toList cs ∧
      (SpellsInteger cs m ∨ ∃ r, cs = '+' :: r ∧ SpellsInteger r m) ∧
      t.InRange m ∧ n.IsWord t m) ∧
    ((∃ n, toNative (.text k s) (.integral t) ns = .ok n) ∨
      ∃ e, toNative (.text k s) (.integral t) ns = .error e ∧ e.code = .forg0001) := by
  refine ⟨fun n => ?_, ?_⟩
  · rw [toNative_integral_eq_ok_iff]
    constructor
    · rintro ⟨m, hm, hrange, hn⟩
      obtain ⟨-, hspells⟩ := readInteger?_eq_some_iff.1 (toInteger_text_eq_ok_iff.1 hm)
      exact ⟨_, m, Text.isTrimmed_trim s.toList, hspells, hrange, hn⟩
    · rintro ⟨cs, m, hcs, hspells, hrange, hn⟩
      obtain rfl := Text.trim_eq_iff.2 hcs
      have hread := readInteger?_eq_some_iff.2 ⟨isWide_of_inRange hrange, hspells⟩
      exact ⟨m, toInteger_text_eq_ok_iff.2 hread, hrange, hn⟩
  · cases hout : toNative (.text k s) (.integral t) ns with
    | ok n => exact .inl ⟨n, rfl⟩
    | error e =>
      refine .inr ⟨e, rfl, ?_⟩
      rcases toNative_integral_eq_error_iff.1 hout with he | ⟨m, -, -, rfl⟩
      · exact code_of_toInteger_text he
      · rfl

/-- A text with two signs, which spells no integer, is read as one. -/
theorem toNative_integral_text_signs :
    toNative (.text .string "+-5") (.integral .int) .empty = .ok (.int ⟨-5, by decide⟩) ∧
      ¬ ∃ cs m, Text.IsTrimmed "+-5".toList cs ∧ SpellsInteger cs m := by
  refine ⟨by rfl, ?_⟩
  rintro ⟨cs, m, hcs, hm⟩
  have htrim : Text.trim "+-5".toList = ['+', '-', '5'] := by decide
  obtain rfl := htrim.symm.trans (Text.trim_eq_iff.2 hcs)
  have hnone : readSigned? ['+', '-', '5'] = none := by decide
  cases hnone.symm.trans (readSigned?_eq_some_iff.2 hm)

end Cast

end XPathExtension
