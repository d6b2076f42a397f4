import XPathExtension.Proofs.IntegralCasts
import XPathExtension.Proofs.LexicalForms

/-!
Faults of casts. There is a table of the types between which values can be cast; outside of it every
cast fails with the code of type errors, and inside none does. The other codes are those of numbers
without an integer part, of names with a prefix that is not bound, and of all other values that have
no counterpart in the target type.
-/

namespace XPathExtension

/-- Values of the source type can be cast to the target, if not all of them. -/
def AtomicType.converts (source : AtomicType) : AtomicType → Bool
  | anyAtomic | text _ => true
  | boolean | decimal | double | float | integral _ =>
    match source with
    | text _ | boolean => true
    | s => s.isNumeric
  | qname =>
    match source with
    | text .string | text .untypedAtomic | qname => true
    | _ => false
  | dateTime | date =>
    match source with
    | text _ | dateTime | date => true
    | _ => false

namespace AtomicValue

/-- An infinity or NaN, of any of the types that have them. -/
def IsNonFinite : AtomicValue → Prop
  | decimal d | double d => d.isFinite = false
  | float x => x.isFinite = false
  | _ => False

/-- A string or an untyped text that is a name with a prefix, and the prefix is not bound. -/
def HasUnboundPrefix (v : AtomicValue) (ns : Namespaces) : Prop :=
  ∃ k s p l, v = text k s ∧ (k = .string ∨ k = .untypedAtomic) ∧
    Text.IsTrimmed s.toList (p ++ ':' :: l) ∧ Name.isNCName p = true ∧ Name.isNCName l = true ∧
      ns.resolve? (String.ofList p) = none

variable {v : AtomicValue}

theorem isNonFinite_iff (hv : v.type.isNumeric = true) : v.IsNonFinite ↔ v.value? = none := by
  have hbinary {f : Binary.Format} (d : Binary f) : d.isFinite = false ↔ d.value? = none := by
    cases d <;> simp [Binary.isFinite, Binary.value?]
  cases v with
  | decimal d => exact hbinary d
  | double d => exact hbinary d
  | float x => exact hbinary x
  | integral k n => simp [IsNonFinite, value?]
  | _ => simp [type, AtomicType.isNumeric] at hv

theorem IsNonFinite.isNumeric (h : v.IsNonFinite) : v.type.isNumeric = true := by
  cases v with
  | decimal d | double d => rfl
  | float x => rfl
  | _ => cases h

end AtomicValue

/-! ### Names -/

namespace Name

variable {cs : List Char} {p l : String}

theorem eq_append_of_splitPrefix {ps ls : List Char} (h : splitPrefix cs = (some ps, ls)) :
    cs = ps ++ ':' :: ls := by
  have hsplit := List.takeWhile_append_dropWhile (p := fun c => decide (c ≠ ':')) (l := cs)
  have hhead := List.head?_dropWhile_not (fun c => decide (c ≠ ':')) cs
  unfold splitPrefix at h
  split at h
  case h_1 => cases (Prod.mk.inj h).1
  case h_2 c r heq =>
    obtain ⟨hps, rfl⟩ := Prod.mk.inj h
    obtain rfl := Option.some.inj hps
    rw [heq] at hsplit hhead
    obtain rfl : c = ':' := by simpa using hhead
    exact hsplit.symm

theorem readQualified?_eq_some_iff : readQualified? cs = some ⟨some p, l⟩ ↔
    ∃ ps ls, cs = ps ++ ':' :: ls ∧ isNCName ps = true ∧ isNCName ls = true ∧
      p = String.ofList ps ∧ l = String.ofList ls := by
  constructor
  · intro h
    unfold readQualified? at h
    split at h
    case h_1 => split at h <;> cases h
    case h_2 ps ls hsplit =>
      split at h
      case isFalse => cases h
      case isTrue hnames =>
        rw [Bool.and_eq_true] at hnames
        cases h
        exact ⟨ps, ls, eq_append_of_splitPrefix hsplit, hnames.1, hnames.2, rfl, rfl⟩
  · rintro ⟨ps, ls, rfl, hps, hls, rfl, rfl⟩
    rw [readQualified?, splitPrefix_append hps]
    simp [hps, hls]

end Name

namespace Cast

/-- The faults that a cast of the value can have, each with when it arises. -/
inductive Faults (v : AtomicValue) (t : AtomicType) (ns : Namespaces) : CastError → Prop
  | noConversion (h : v.type.converts t = false) : Faults v t ns (.noConversion v.type t)
  | notInLexicalSpace (h : v.type.converts t = true) : Faults v t ns (.notInLexicalSpace v t)
  | outOfRange {k : IntegralType} {n : Int} (ht : t = .integral k)
      (h : v.type.converts t = true) : Faults v t ns (.outOfRange n k)
  | notFinite {k : IntegralType} (ht : t = .integral k) (h : v.IsNonFinite) :
      Faults v t ns (.notFinite v k)
  | invalidQName {s : String} (ht : t = .qname) (h : v.type.converts t = true) :
      Faults v t ns (.invalidQName s)
  | unboundPrefix {p : String} (ht : t = .qname) (h : v.HasUnboundPrefix ns) :
      Faults v t ns (.unboundPrefix p)

variable {v : AtomicValue} {t : AtomicType} {k : IntegralType} {ns : Namespaces} {e : CastError}

/-! ### One conversion after the other -/

theorem faults_of_toBoolean (h : toBoolean v = .error e) : Faults v .boolean ns e := by
  cases v with
  | text k s =>
    simp only [toBoolean, AtomicValue.number?, AtomicValue.trimmed?] at h
    split_ifs at h
    cases h
    exact .notInLexicalSpace rfl
  | qname | dateTime | date =>
    cases h
    exact .noConversion rfl
  | _ => cases h

theorem faults_of_toBinary (ht : t = .decimal ∨ t = .double ∨ t = .float)
    (h : toBinary v t = .error e) : Faults v t ns e := by
  have hconverts : v.type.converts t = v.type.converts .boolean := by
    rcases ht with rfl | rfl | rfl <;> rfl
  cases v with
  | text k s =>
    simp only [toBinary, AtomicValue.number?, AtomicValue.trimmed?] at h
    split at h <;> cases h
    exact .notInLexicalSpace hconverts
  | qname | dateTime | date =>
    cases h
    exact .noConversion hconverts
  | _ => cases h

theorem faults_of_toInteger (h : toInteger v k = .error e) : Faults v (.integral k) ns e := by
  by_cases hv : v.type.isNumeric = true ∨ v.type = .boolean
  · have htruncates := truncates_toInteger (t := k) hv
    rw [h] at htruncates
    have hconverts : v.type.converts (.integral k) = true := by
      cases v <;> simp [AtomicValue.type, AtomicType.converts, AtomicType.isNumeric] at hv ⊢
    cases htruncates with
    | tooLarge => exact .notInLexicalSpace hconverts
    | notFinite hnone =>
      have hnumeric : v.type.isNumeric = true := by
        rcases hv with hv | hv
        · exact hv
        · cases v <;> cases hv
          cases hnone
      exact .notFinite rfl ((AtomicValue.isNonFinite_iff hnumeric).2 hnone)
  · cases v with
    | text j s =>
      rw [toInteger_eq_readInteger?] at h
      split at h <;> cases h
      exact .notInLexicalSpace rfl
    | qname | dateTime | date =>
      cases h
      exact .noConversion rfl
    | _ => simp [AtomicValue.type, AtomicType.isNumeric] at hv

theorem readQName_eq_error {s : String} (h : readQName ns s = .error e) : e = .invalidQName s ∨
    ∃ p l, Text.IsTrimmed s.toList (p ++ ':' :: l) ∧ Name.isNCName p = true ∧
      Name.isNCName l = true ∧ ns.resolve? (String.ofList p) = none ∧
        e = .unboundPrefix (String.ofList p) := by
  unfold readQName at h
  split at h
  case h_1 => exact .inl (Except.error.inj h).symm
  case h_2 => cases h
  case h_3 p l hread =>
    split at h
    case h_1 => cases h
    case h_2 hnone =>
      obtain ⟨ps, ls, htrim, hps, hls, rfl, rfl⟩ := Name.readQualified?_eq_some_iff.1 hread
      exact .inr ⟨ps, ls, Text.trim_eq_iff.1 htrim, hps, hls, hnone, (Except.error.inj h).symm⟩

theorem readQName_of_unbound {s : String} {p l : List Char}
    (htrim : Text.IsTrimmed s.toList (p ++ ':' :: l)) (hp : Name.isNCName p = true)
    (hl : Name.isNCName l = true) (hnone : ns.resolve? (String.ofList p) = none) :
    readQName ns s = .error (.unboundPrefix (String.ofList p)) := by
  have hread := Name.readQualified?_eq_some_iff.2 ⟨p, l, rfl, hp, hl, rfl, rfl⟩
  rw [readQName, Text.trim_eq_iff.2 htrim, hread]
  dsimp only
  rw [hnone]

theorem faults_of_toQName (h : toQName v ns = .error e) : Faults v .qname ns e := by
  have hread {k : TextType} {s : String} (hk : k = .string ∨ k = .untypedAtomic)
      (h : readQName ns s = .error e) : Faults (.text k s) .qname ns e := by
    rcases readQName_eq_error h with rfl | ⟨p, l, htrim, hp, hl, hnone, rfl⟩
    · refine .invalidQName rfl ?_
      rcases hk with rfl | rfl <;> rfl
    · exact .unboundPrefix rfl ⟨k, s, p, l, rfl, hk, htrim, hp, hl, hnone⟩
  cases v with
  | text k s =>
    cases k with
    | string => exact hread (.inl rfl) h
    | untypedAtomic => exact hread (.inr rfl) h
    | anyURI =>
      cases h
      exact .noConversion rfl
  | qname q => cases h
  | _ =>
    cases h
    exact .noConversion rfl

theorem faults_of_toDateTime (h : toDateTime v = .error e) : Faults v .dateTime ns e := by
  cases v with
  | text k s =>
    simp only [toDateTime, AtomicValue.trimmed?] at h
    split at h <;> cases h
    exact .notInLexicalSpace rfl
  | date d zone =>
    simp only [toDateTime] at h
    split at h <;> cases h
    exact .notInLexicalSpace rfl
  | dateTime d => cases h
  | _ =>
    cases h
    exact .noConversion rfl

theorem faults_of_toDate (h : toDate v = .error e) : Faults v .date ns e := by
  cases v with
  | text k s =>
    simp only [toDate, AtomicValue.trimmed?] at h
    split at h <;> cases h
    exact .notInLexicalSpace rfl
  | dateTime d => cases h
  | date d zone => cases h
  | _ =>
    cases h
    exact .noConversion rfl

/-! ### All casts -/

theorem faults_of_toNative (h : toNative v t ns = .error e) : Faults v t ns e := by
  cases t with
  | anyAtomic => cases h
  | text k => cases h
  | boolean => exact faults_of_toBoolean (Outcome.map_eq_error_iff.1 h)
  | decimal => exact faults_of_toBinary (.inl rfl) (Outcome.map_eq_error_iff.1 h)
  | double => exact faults_of_toBinary (.inr (.inl rfl)) (Outcome.map_eq_error_iff.1 h)
  | float => exact faults_of_toBinary (.inr (.inr rfl)) (Outcome.map_eq_error_iff.1 h)
  | integral k =>
    rcases toNative_integral_eq_error_iff.1 h with h | ⟨m, hm, -, rfl⟩
    · exact faults_of_toInteger h
    · refine .outOfRange rfl ?_
      cases v with
      | qname | dateTime | date => cases hm
      | _ => rfl
  | qname => exact faults_of_toQName (Outcome.map_eq_error_iff.1 h)
  | dateTime => exact faults_of_toDateTime (Outcome.map_eq_error_iff.1 h)
  | date => exact faults_of_toDate (Outcome.map_eq_error_iff.1 h)

/-- Outside of the table all values are refused alike. -/
theorem toNative_of_not_converts (h : v.type.converts t = false) :
    toNative v t ns = .error (.noConversion v.type t) := by
  cases t with
  | anyAtomic | text k => cases h
  | boolean | decimal | double | float | integral k =>
    cases v with
    | qname | dateTime | date => rfl
    | _ => cases h
  | qname =>
    cases v with
    | text k s =>
      cases k with
      | anyURI => rfl
      | _ => cases h
    | qname q => cases h
    | _ => rfl
  | dateTime | date =>
    cases v with
    | text | dateTime | date => cases h
    | _ => rfl

theorem toNative_of_isNonFinite (hv : v.IsNonFinite) :
    toNative v (.integral k) ns = .error (.notFinite v k) := by
  have hnumeric := hv.isNumeric
  have hnone := (AtomicValue.isNonFinite_iff hnumeric).1 hv
  have htruncates := truncates_toInteger (t := k) (.inl hnumeric)
  refine toNative_integral_eq_error_iff.2 (.inl ?_)
  generalize toInteger v k = out at htruncates
  cases htruncates with
  | whole hx => cases hnone.symm.trans hx
  | tooLarge hx => cases hnone.symm.trans hx
  | notFinite => rfl

theorem toNative_of_hasUnboundPrefix (hv : v.HasUnboundPrefix ns) :
    ∃ p, toNative v .qname ns = .error (.unboundPrefix p) := by
  obtain ⟨k, s, p, l, rfl, hk, htrim, hp, hl, hnone⟩ := hv
  refine ⟨String.ofList p, Outcome.map_eq_error_iff.2 ?_⟩
  rcases hk with rfl | rfl
  · exact readQName_of_unbound htrim hp hl hnone
  · exact readQName_of_unbound htrim hp hl hnone

/-- The cast fails with an error of the code. -/
def FailsWith (v : AtomicValue) (t : AtomicType) (ns : Namespaces) (c : ErrorCode) : Prop :=
  ∃ e, toNative v t ns = .error e ∧ e.toError.kind = c

theorem failsWith_iff {c : ErrorCode} :
    FailsWith v t ns c ↔ ∃ e, toNative v t ns = .error e ∧ e.code = c := by
  simp [FailsWith, CastError.toError]

theorem failsWith_xpty0004_iff : FailsWith v t ns .xpty0004 ↔ v.type.converts t = false := by
  rw [failsWith_iff]
  constructor
  · rintro ⟨e, he, hcode⟩
    cases faults_of_toNative he with
    | noConversion h => exact h
    | _ => cases hcode
  · intro h
    exact ⟨_, toNative_of_not_converts h, rfl⟩

theorem failsWith_foca0002_iff :
    FailsWith v t ns .foca0002 ↔ t.isIntegral = true ∧ v.IsNonFinite := by
  rw [failsWith_iff]
  constructor
  · rintro ⟨e, he, hcode⟩
    cases faults_of_toNative he with
    | notFinite ht h => exact ⟨by rw [ht]; rfl, h⟩
    | _ => cases hcode
  · rintro ⟨ht, h⟩
    cases t with
    | integral k => exact ⟨_, toNative_of_isNonFinite h, rfl⟩
    | _ => cases ht

theorem failsWith_fons0004_iff :
    FailsWith v t ns .fons0004 ↔ t = .qname ∧ v.HasUnboundPrefix ns := by
  rw [failsWith_iff]
  constructor
  · rintro ⟨e, he, hcode⟩
    cases faults_of_toNative he with
    | unboundPrefix ht h => exact ⟨ht, h⟩
    | _ => cases hcode
  · rintro ⟨rfl, h⟩
    obtain ⟨p, he⟩ := toNative_of_hasUnboundPrefix h
    exact ⟨_, he, rfl⟩

/-- The codes of failed casts. No cast to a type of texts fails, nor one to the type of all values.
Whether a cast fails with the code of type errors is seen from the two types alone. One code is that
of infinities and NaN as integers, one that of names with a prefix that is not bound, and the only
other one is that of texts and values outside the target type. -/
theorem codes_of_toNative (v : AtomicValue) (t : AtomicType) (ns : Namespaces) :
    ((t = .anyAtomic ∨ ∃ k, t = .text k) → ∃ n, toNative v t ns = .ok n) ∧
    (∀ w ns', w.type = v.type → (FailsWith w t ns' .xpty0004 ↔ FailsWith v t ns .xpty0004)) ∧
    (FailsWith v t ns .xpty0004 ↔ v.type.converts t = false) ∧
    (FailsWith v t ns .foca0002 ↔ t.isIntegral = true ∧ v.IsNonFinite) ∧
    (FailsWith v t ns .fons0004 ↔ t = .qname ∧ v.HasUnboundPrefix ns) ∧
    ∀ c, FailsWith v t ns c → c = .xpty0004 ∨ c = .foca0002 ∨ c = .fons0004 ∨ c = .forg0001 := by
  refine ⟨?_, fun w ns' hw => ?_, failsWith_xpty0004_iff, failsWith_foca0002_iff,
    failsWith_fons0004_iff, fun c hc => ?_⟩
  · rintro (rfl | ⟨k, rfl⟩)
    · exact ⟨_, rfl⟩
    · exact ⟨_, rfl⟩
  · rw [failsWith_xpty0004_iff, failsWith_xpty0004_iff, hw]
  · obtain ⟨e, he, rfl⟩ := failsWith_iff.1 hc
    cases faults_of_toNative he with
    | noConversion => exact .inl rfl
    | notFinite => exact .inr (.inl rfl)
    | unboundPrefix => exact .inr (.inr (.inl rfl))
    | _ => exact .inr (.inr (.inr rfl))

theorem codes_of_toNative_unbound : FailsWith (.text .string " q:a ") .qname .empty .fons0004 := by
  have htrim : Text.IsTrimmed " q:a ".toList (['q'] ++ ':' :: ['a']) :=
    Text.trim_eq_iff.1 (by decide)
  have hcodes := (codes_of_toNative (.text .string " q:a ") .qname .empty).2.2.2.2.1
  exact hcodes.2 ⟨rfl, .string, " q:a ", ['q'], ['a'], rfl, .inl rfl, htrim, by decide, by decide,
    rfl⟩

end Cast

end XPathExtension
