import XPathExtension.Proofs.CastFaults
import XPathExtension.Proofs.Enforcement
import XPathExtension.Proofs.Overflow

/-!
Casts to decimals and the value space of decimals. A decimal is a finite number, and its text has a
sign, digits and a point at most. The cast to decimals takes every value that the cast to doubles
takes and gives the same number, and so leaves that space: with infinities and NaN, as numbers and
by name, with texts that have a power of ten, and with texts that are too large for a finite number.
These are all the values with which it does.
-/

namespace XPathExtension

open Text (AreDigits digitsValue)

namespace Numeral

variable {cs : List Char} {n : Numeral}

/-! ### Decimals as written -/

/-- A decimal as written: a sign, and digits with one point among them or none. There is at least
one digit. -/
inductive SpellsDecimal : List Char → Numeral → Prop
  | integer {sign whole : List Char} {negative : Bool} (hs : SpellsSign sign negative)
      (hne : whole ≠ []) (hw : AreDigits whole) :
      SpellsDecimal (sign ++ whole) ⟨negative, whole, [], 0⟩
  | pointed {sign whole fraction : List Char} {negative : Bool} (hs : SpellsSign sign negative)
      (hne : ¬ (whole = [] ∧ fraction = [])) (hw : AreDigits whole) (hf : AreDigits fraction) :
      SpellsDecimal (sign ++ (whole ++ '.' :: fraction)) ⟨negative, whole, fraction, 0⟩

theorem SpellsDecimal.spells (h : SpellsDecimal cs n) : Spells cs n := by
  cases h with
  | integer hs hne hw =>
    have hspells := Spells.integer hs hne hw .none
    rwa [List.append_nil] at hspells
  | pointed hs hne hw hf =>
    have hspells := Spells.pointed hs hne hw hf .none
    rwa [List.append_nil] at hspells

theorem SpellsDecimal.not_mem_of_isAlpha (h : SpellsDecimal cs n) {c : Char}
    (hletter : c.isAlpha = true) : c ∉ cs := by
  cases h with
  | integer hs hne hw =>
    simp [hs.not_mem_of_isAlpha hletter, not_mem_digits_of_isAlpha hletter hw]
  | pointed hs hne hw hf =>
    have hpoint : c ≠ '.' := by
      rintro rfl
      cases hletter
    simp [hs.not_mem_of_isAlpha hletter, not_mem_digits_of_isAlpha hletter hw,
      not_mem_digits_of_isAlpha hletter hf, hpoint]

/-- The text has the mark of a power of ten. -/
def HasMark (cs : List Char) : Prop := 'e' ∈ cs ∨ 'E' ∈ cs

theorem hasMark_append_cons {c : Char} (hc : c = 'e' ∨ c = 'E') (before after : List Char) :
    HasMark (before ++ c :: after) := by
  rcases hc with rfl | rfl
  · exact .inl (by simp)
  · exact .inr (by simp)

/-- Decimals are the numerals without a power. -/
theorem spellsDecimal_iff : SpellsDecimal cs n ↔ Spells cs n ∧ ¬ HasMark cs := by
  constructor
  · intro h
    refine ⟨h.spells, ?_⟩
    rintro (hmark | hmark)
    · exact h.not_mem_of_isAlpha rfl hmark
    · exact h.not_mem_of_isAlpha rfl hmark
  · rintro ⟨h, hmark⟩
    cases h with
    | @integer sign whole power negative p hs hne hw hp =>
      cases hp with
      | none =>
        rw [List.append_nil]
        exact .integer hs hne hw
      | marked hc =>
        rw [← List.append_assoc] at hmark
        exact absurd (hasMark_append_cons hc _ _) hmark
    | @pointed sign whole fraction power negative p hs hne hw hf hp =>
      cases hp with
      | none =>
        rw [List.append_nil]
        exact .pointed hs hne hw hf
      | marked hc =>
        rw [← List.cons_append, ← List.append_assoc, ← List.append_assoc] at hmark
        exact absurd (hasMark_append_cons hc _ _) hmark

/-- The exact value without the sign. -/
def magnitude (n : Numeral) : ℚ :=
  digitsValue (n.whole ++ n.fraction) * 10 ^ (n.power - n.fraction.length : ℤ)

theorem isFinite_toBinary_iff (n : Numeral) :
    (n.toBinary .binary64).isFinite = true ↔ n.magnitude < 2 ^ 1024 - 2 ^ 970 := by
  rw [← Binary.Format.limit_binary64]
  exact Binary.isFinite_ofDecimal_iff ..

end Numeral

/-! ### Finite numbers -/

namespace Binary

theorem isFinite_convert (x : Binary32) : (x.convert .binary64).isFinite = x.isFinite := by
  cases x with
  | nan => rfl
  | infinite negative => rfl
  | finite negative k =>
    obtain ⟨j, hwide, -⟩ := exists_convert Format.within_binary64 negative k
    rw [hwide]
    rfl

theorem isFinite_of_value? {f : Format} {d : Binary f} {x : ℚ} (h : d.value? = some x) :
    d.isFinite = true := by
  cases d with
  | finite negative k => rfl
  | _ => cases h

theorem isFinite_ofInt {m : ℤ} (h : m.natAbs < Cast.integerBound) :
    (ofInt .binary64 m).isFinite = true := by
  rw [ofInt, isFinite_ofRatio_iff Nat.one_pos (by decide), Nat.cast_one, div_one]
  have hnat : m.natAbs < 2 ^ 127 := by
    have hbound : Cast.integerBound < 2 ^ 127 := by decide
    omega
  calc (m.natAbs : ℚ) < 2 ^ (127 : ℤ) := by exact_mod_cast hnat
    _ ≤ 2 ^ Format.maxExponent .binary64 := zpow_le_zpow_right₀ one_le_two (by decide)
    _ < Format.limit .binary64 := Format.two_zpow_lt_limit _

end Binary

namespace AtomicValue

variable {v : AtomicValue} {d : Binary64} {ns : Namespaces}

/-! ### The value space of decimals -/

/-- A text has the form of a decimal, apart from the blanks around it. -/
def HasDecimalForm : AtomicValue → Prop
  | text _ s => ∃ cs n, Text.IsTrimmed s.toList cs ∧ Numeral.SpellsDecimal cs n
  | _ => True

/-- If the cast to decimals succeeds, it gives a finite decimal, and a text has the form of one. -/
def StaysDecimal (v : AtomicValue) (ns : Namespaces) : Prop :=
  ∀ u, v.cast .decimal ns = .ok u →
    (∃ d, u = .decimal d ∧ d.isFinite = true) ∧ v.HasDecimalForm

/-- The values with a counterpart in the value space: truth values, finite numbers, and texts of
decimals up to half a last place above the greatest finite number. -/
inductive StandsForDecimal : AtomicValue → Prop
  | number {v : AtomicValue} {x : ℚ} (h : v.value? = some x) : StandsForDecimal v
  | text {k : TextType} {s : String} {cs : List Char} {n : Numeral}
      (hcs : Text.IsTrimmed s.toList cs) (hn : n.SpellsDecimal cs)
      (h : n.magnitude < 2 ^ 1024 - 2 ^ 970) : StandsForDecimal (.text k s)

/-- The values that are cast to decimals without a counterpart in the value space. -/
inductive EscapesDecimals : AtomicValue → Prop
  | nonFinite {v : AtomicValue} (h : v.IsNonFinite) : EscapesDecimals v
  | named {k : TextType} {s : String} {cs : List Char} (hcs : Text.IsTrimmed s.toList cs)
      (h : cs ∈ Binary.names) : EscapesDecimals (.text k s)
  | marked {k : TextType} {s : String} {cs : List Char} {n : Numeral}
      (hcs : Text.IsTrimmed s.toList cs) (hn : n.Spells cs) (h : Numeral.HasMark cs) :
      EscapesDecimals (.text k s)
  | tooLarge {k : TextType} {s : String} {cs : List Char} {n : Numeral}
      (hcs : Text.IsTrimmed s.toList cs) (hn : n.SpellsDecimal cs)
      (h : 2 ^ 1024 - 2 ^ 970 ≤ n.magnitude) : EscapesDecimals (.text k s)

open Cast (toBinary)

theorem StandsForDecimal.exists_toBinary (h : v.StandsForDecimal) :
    ∃ d, toBinary v .decimal = .ok d ∧ d.isFinite = true ∧ v.HasDecimalForm := by
  cases h with
  | number h =>
    cases v with
    | boolean b =>
      refine ⟨_, rfl, Binary.isFinite_ofInt ?_, trivial⟩
      cases b <;> decide
    | integral k m =>
      exact ⟨_, rfl, Binary.isFinite_ofInt (Cast.natAbs_lt_of_inRange m.property), trivial⟩
    | decimal d => exact ⟨d, rfl, Binary.isFinite_of_value? h, trivial⟩
    | double d => exact ⟨d, rfl, Binary.isFinite_of_value? h, trivial⟩
    | float x =>
      refine ⟨_, rfl, ?_, trivial⟩
      rw [Binary.isFinite_convert]
      exact Binary.isFinite_of_value? h
    | text | qname | dateTime | date => cases h
  | text hcs hn h =>
    exact ⟨_, Cast.toBinary_text_eq_ok_iff.2 ⟨_, hcs, .numeral hn.spells⟩,
      (Numeral.isFinite_toBinary_iff _).2 h, _, _, hcs, hn⟩

theorem exists_spells_of_mem_names {cs : List Char} (h : cs ∈ Binary.names) :
    ∃ d : Binary64, Binary.Spells cs d ∧ d.isFinite = false := by
  simp only [Binary.names, List.map_cons, List.map_nil, List.mem_cons, List.not_mem_nil,
    or_false] at h
  rcases h with rfl | rfl | rfl | rfl
  · exact ⟨_, .infinity, rfl⟩
  · exact ⟨_, .plusInfinity, rfl⟩
  · exact ⟨_, .minusInfinity, rfl⟩
  · exact ⟨_, .nan, rfl⟩

theorem EscapesDecimals.exists_toBinary (h : v.EscapesDecimals) :
    ∃ d, toBinary v .decimal = .ok d ∧ ¬ (d.isFinite = true ∧ v.HasDecimalForm) := by
  cases h with
  | nonFinite h =>
    cases v with
    | decimal d => exact ⟨d, rfl, by simp_all [IsNonFinite]⟩
    | double d => exact ⟨d, rfl, by simp_all [IsNonFinite]⟩
    | float x => exact ⟨_, rfl, by simp_all [IsNonFinite, Binary.isFinite_convert]⟩
    | _ => cases h
  | named hcs h =>
    obtain ⟨d, hd, hinfinite⟩ := exists_spells_of_mem_names h
    exact ⟨d, Cast.toBinary_text_eq_ok_iff.2 ⟨_, hcs, hd⟩, by simp [hinfinite]⟩
  | marked hcs hn h =>
    refine ⟨_, Cast.toBinary_text_eq_ok_iff.2 ⟨_, hcs, .numeral hn⟩, ?_⟩
    rintro ⟨-, cs, n, hcs', hdecimal⟩
    obtain rfl := (Text.trim_eq_iff.2 hcs).symm.trans (Text.trim_eq_iff.2 hcs')
    exact (Numeral.spellsDecimal_iff.1 hdecimal).2 h
  | tooLarge hcs hn h =>
    refine ⟨_, Cast.toBinary_text_eq_ok_iff.2 ⟨_, hcs, .numeral hn.spells⟩, ?_⟩
    rw [Numeral.isFinite_toBinary_iff]
    exact fun hkept => absurd hkept.1 (not_lt.2 h)

theorem stands_or_escapes (h : toBinary v .decimal = .ok d) :
    v.StandsForDecimal ∨ v.EscapesDecimals := by
  have hnumber (hv : v.type.isNumeric = true) : v.StandsForDecimal ∨ v.EscapesDecimals := by
    cases hx : v.value? with
    | none => exact .inr (.nonFinite ((isNonFinite_iff hv).2 hx))
    | some x => exact .inl (.number hx)
  cases v with
  | boolean b => exact .inl (.number rfl)
  | decimal | double | float | integral => exact hnumber rfl
  | qname | dateTime | date => cases h
  | text k s =>
    obtain ⟨cs, hcs, hspells⟩ := Cast.toBinary_text_eq_ok_iff.1 h
    cases hspells with
    | infinity | plusInfinity | minusInfinity | nan =>
      exact .inr (.named hcs (by simp [Binary.names]))
    | @numeral _ n hn =>
      by_cases hmark : Numeral.HasMark cs
      · exact .inr (.marked hcs hn hmark)
      · have hdecimal := Numeral.spellsDecimal_iff.2 ⟨hn, hmark⟩
        by_cases hlarge : n.magnitude < 2 ^ 1024 - 2 ^ 970
        · exact .inl (.text hcs hdecimal hlarge)
        · exact .inr (.tooLarge hcs hdecimal (not_lt.1 hlarge))

/-! ### The cast -/

/-- A cast to a type whose native values are doubles. -/
theorem cast_eq_toBinary {t : AtomicType} {mk : Binary64 → AtomicValue} (ht : t ≠ .anyAtomic)
    (hn : Cast.toNative v t ns = NativeValue.double <$> toBinary v t)
    (hmk : ∀ d, ofNative t (.double d) = .ok (mk d)) :
    v.cast t ns = mk <$> (toBinary v t).mapError ConversionError.cast := by
  unfold cast
  rw [if_neg ht, hn]
  cases toBinary v t with
  | error e => rfl
  | ok d =>
    change (ofNative t (.double d)).mapError _ = _
    rw [hmk]
    rfl

theorem cast_decimal_eq :
    v.cast .decimal ns = decimal <$> (toBinary v .decimal).mapError ConversionError.cast :=
  cast_eq_toBinary (by decide) rfl fun _ => rfl

theorem cast_double_eq :
    v.cast .double ns = double <$> (toBinary v .double).mapError ConversionError.cast :=
  cast_eq_toBinary (by decide) rfl fun _ => rfl

theorem cast_decimal_eq_ok_iff {u : AtomicValue} : v.cast .decimal ns = .ok u ↔
    ∃ d, toBinary v .decimal = .ok d ∧ decimal d = u := by
  rw [cast_decimal_eq, Outcome.map_eq_ok_iff]
  simp only [Outcome.mapError_eq_ok_iff]

theorem cast_double_eq_ok_iff : v.cast .double ns = .ok (.double d) ↔
    toBinary v .double = .ok d := by
  rw [cast_double_eq, Outcome.map_eq_ok_iff]
  simp

/-- Decimals are cast like doubles. -/
theorem cast_decimal_iff_cast_double {u : AtomicValue} : v.cast .decimal ns = .ok u ↔
    ∃ d, v.cast .double ns = .ok (.double d) ∧ decimal d = u := by
  rw [cast_decimal_eq_ok_iff]
  simp only [cast_double_eq_ok_iff]
  apply exists_congr
  intro d
  exact and_congr_left fun _ =>
    ⟨fun h => Cast.toBinary_eq_ok_of_target h _, fun h => Cast.toBinary_eq_ok_of_target h _⟩

theorem staysDecimal_iff (h : toBinary v .decimal = .ok d) :
    v.StaysDecimal ns ↔ d.isFinite = true ∧ v.HasDecimalForm := by
  simp [StaysDecimal, cast_decimal_eq_ok_iff, h]

theorem standsForDecimal_iff :
    v.StandsForDecimal ↔ (∃ u, v.cast .decimal ns = .ok u) ∧ v.StaysDecimal ns := by
  constructor
  · intro h
    obtain ⟨d, hd, hkept⟩ := h.exists_toBinary
    exact ⟨⟨_, cast_decimal_eq_ok_iff.2 ⟨d, hd, rfl⟩⟩, (staysDecimal_iff hd).2 hkept⟩
  · rintro ⟨⟨u, hu⟩, hstays⟩
    obtain ⟨d, hd, -⟩ := cast_decimal_eq_ok_iff.1 hu
    rcases stands_or_escapes hd with h | h
    · exact h
    · obtain ⟨d', hd', hnot⟩ := h.exists_toBinary
      exact absurd ((staysDecimal_iff hd').1 hstays) hnot

theorem escapesDecimals_iff :
    v.EscapesDecimals ↔ (∃ u, v.cast .decimal ns = .ok u) ∧ ¬ v.StaysDecimal ns := by
  constructor
  · intro h
    obtain ⟨d, hd, hnot⟩ := h.exists_toBinary
    exact ⟨⟨_, cast_decimal_eq_ok_iff.2 ⟨d, hd, rfl⟩⟩, fun hstays =>
      hnot ((staysDecimal_iff hd).1 hstays)⟩
  · rintro ⟨⟨u, hu⟩, hnot⟩
    obtain ⟨d, hd, -⟩ := cast_decimal_eq_ok_iff.1 hu
    rcases stands_or_escapes hd with h | h
    · exact absurd (standsForDecimal_iff.1 h).2 hnot
    · exact h

theorem code_of_cast_decimal {e : ConversionError} (h : v.cast .decimal ns = .error e) :
    e.code = if v.type.converts .decimal = true then .forg0001 else .xpty0004 := by
  rw [cast_decimal_eq, Outcome.map_eq_error_iff, Outcome.mapError_eq_error_iff] at h
  obtain ⟨fault, hfault, rfl⟩ := h
  have hfaults : Cast.Faults v .decimal ns fault := Cast.faults_of_toBinary (.inl rfl) hfault
  cases hfaults with
  | noConversion hconverts =>
    rw [if_neg (by simp [hconverts])]
    rfl
  | notInLexicalSpace hconverts =>
    rw [if_pos hconverts]
    rfl
  | outOfRange ht => cases ht
  | notFinite ht => cases ht
  | invalidQName ht => cases ht
  | unboundPrefix ht => cases ht

/-- The cast to decimals and the value space of decimals. The cast succeeds exactly where the one to
doubles does, with the same number. The values with which it succeeds are of two kinds: those with a
counterpart among the decimals give a finite number and, if they are texts, have the form of a
decimal; infinities, NaN, their names, texts with a power of ten and texts that are too large lead
out of the space. All other values are refused, texts with another code than values of types that
cannot be cast to decimals. -/
theorem cast_decimal (v : AtomicValue) (ns : Namespaces) :
    (∀ u, v.cast .decimal ns = .ok u ↔
      ∃ d, v.cast .double ns = .ok (.double d) ∧ .decimal d = u) ∧
    (v.StandsForDecimal ↔ (∃ u, v.cast .decimal ns = .ok u) ∧ v.StaysDecimal ns) ∧
    (v.EscapesDecimals ↔ (∃ u, v.cast .decimal ns = .ok u) ∧ ¬ v.StaysDecimal ns) ∧
    ∀ e, v.cast .decimal ns = .error e →
      e.code = if v.type.converts .decimal = true then .forg0001 else .xpty0004 :=
  ⟨fun _ => cast_decimal_iff_cast_double, standsForDecimal_iff, escapesDecimals_iff,
    fun _ => code_of_cast_decimal⟩

/-- The name of an infinity is cast to a decimal, like the infinity itself, which is refused as an
integer for not being finite. -/
theorem cast_decimal_infinite :
    (text .string "INF").cast .decimal .empty = .ok (.decimal (.infinite false)) ∧
      ¬ (text .string "INF").StaysDecimal .empty ∧
      (double (.infinite false)).cast .decimal .empty = .ok (.decimal (.infinite false)) ∧
      Cast.FailsWith (double (.infinite false)) (.integral .integer) .empty .foca0002 := by
  have hcast : toBinary (text .string "INF") .decimal = .ok (.infinite false) := by
    exact Cast.toBinary_text_eq_ok_iff.2 ⟨_, Text.trim_eq_iff.1 (by decide), .infinity⟩
  refine ⟨cast_decimal_eq_ok_iff.2 ⟨_, hcast, rfl⟩, ?_, rfl, ?_⟩
  · rw [staysDecimal_iff hcast]
    exact fun h => Bool.false_ne_true h.1
  · exact Cast.failsWith_foca0002_iff.2 ⟨rfl, rfl⟩

end AtomicValue

end XPathExtension
