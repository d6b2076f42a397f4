import XPathExtension.Conversion.Atomic
import XPathExtension.Native.HostType
import XPathExtension.Proofs.Inference

/-!
The native values of a native type. Casts give values of the target type, what stands for an absent
value is of its type, host values travel as values of the described type, and reading a value of the
described type fails for texts that are no variant of an enumeration only.
-/

namespace XPathExtension

/-- The native values that carry the values of an atomic type. -/
inductive AtomicType.HasNative : AtomicType → NativeValue → Prop
  | anyAtomic (v : AtomicValue) : HasNative .anyAtomic (.item (.atomic v))
  | text (k : TextType) (s : String) : HasNative (.text k) (.string s)
  | boolean (b : Bool) : HasNative .boolean (.bool b)
  | decimal (d : Binary64) : HasNative .decimal (.double d)
  | double (d : Binary64) : HasNative .double (.double d)
  | float (x : Binary32) : HasNative .float (.float x)
  | integral (k : IntegralType) (n : k.Value) : HasNative (.integral k) (.ofIntegral k n)
  | qname (q : QName) : HasNative .qname (.qname q)
  | dateTime (d : DateTime) : HasNative .dateTime (.dateTime d)
  | date (d : Date) : HasNative .date (.date d)

/-- The native values of a shape. -/
inductive ElementShape.HasNative : ElementShape → NativeValue → Prop
  | unit : HasNative .unit .unit
  | atomic {t : AtomicType} {v : NativeValue} (h : t.HasNative v) : HasNative (.atomic t) v
  | node (n : Node) : HasNative .node (.node n)
  | item (i : Item) : HasNative .item (.item i)

/-- The native values of an unwrapped type. Those of a value type are never absent. -/
def ElementType.HasNative (e : ElementType) (v : NativeValue) : Prop :=
  e.shape.HasNative v ∨ e.valueType = false ∧ v = .null

/-- The native values of a native type. -/
def NativeType.HasNative : NativeType → NativeValue → Prop
  | .single e, v => e.HasNative v
  | .array _ t _, v => ∃ vs, v = .sequence vs ∧ ∀ w ∈ vs, t.HasNative w
  | .nullable _ t _, v => v = .null ∨ t.HasNative v

theorem AtomicType.HasNative.ne_null {t : AtomicType} {v : NativeValue} (h : t.HasNative v) :
    v ≠ .null := by
  cases h with
  | integral k n =>
    unfold NativeValue.ofIntegral
    split <;> simp
  | _ => simp

theorem ElementShape.HasNative.ne_null {s : ElementShape} {v : NativeValue} (h : s.HasNative v) :
    v ≠ .null := by
  cases h with
  | atomic h => exact h.ne_null
  | _ => simp

/-! ### Casts -/

theorem Cast.hasNative_toNative {v : AtomicValue} {t : AtomicType} {ns : Namespaces}
    {w : NativeValue} (h : Cast.toNative v t ns = .ok w) : t.HasNative w := by
  cases t with
  | anyAtomic =>
    obtain rfl := Except.ok.inj h
    exact .anyAtomic v
  | text k =>
    obtain rfl := Except.ok.inj h
    exact .text k v.lexical
  | boolean =>
    obtain ⟨b, -, rfl⟩ := Outcome.map_eq_ok_iff.1 h
    exact .boolean b
  | decimal =>
    obtain ⟨d, -, rfl⟩ := Outcome.map_eq_ok_iff.1 h
    exact .decimal d
  | double =>
    obtain ⟨d, -, rfl⟩ := Outcome.map_eq_ok_iff.1 h
    exact .double d
  | float =>
    obtain ⟨d, -, rfl⟩ := Outcome.map_eq_ok_iff.1 h
    exact .float (d.convert .binary32)
  | integral k =>
    obtain ⟨n, -, rfl⟩ := Outcome.map_eq_ok_iff.1 h
    exact .integral k n
  | qname =>
    obtain ⟨q, -, rfl⟩ := Outcome.map_eq_ok_iff.1 h
    exact .qname q
  | dateTime =>
    obtain ⟨d, -, rfl⟩ := Outcome.map_eq_ok_iff.1 h
    exact .dateTime d
  | date =>
    obtain ⟨d, -, rfl⟩ := Outcome.map_eq_ok_iff.1 h
    exact .date d

namespace IntegralType

@[simp] theorem ofInt?_val (k : IntegralType) (n : k.Value) : k.ofInt? n.val = some n :=
  dif_pos n.property

theorem ofInt?_eq_some_iff {k : IntegralType} {m : Int} {n : k.Value} :
    k.ofInt? m = some n ↔ m = n.val := by
  constructor
  · intro h
    unfold ofInt? at h
    split at h
    case isTrue => rw [← Option.some.inj h]
    case isFalse => cases h
  · rintro rfl
    exact k.ofInt?_val n

end IntegralType

theorem Cast.toIntegral_eq_ok_iff {v : AtomicValue} {k : IntegralType} {n : k.Value} :
    toIntegral v k = .ok n ↔ toInteger v k = .ok n.val := by
  rw [toIntegral, Outcome.bind_eq_ok_iff]
  constructor
  · rintro ⟨m, hm, hn⟩
    split at hn
    case h_1 hsome =>
      obtain rfl := Except.ok.inj hn
      rw [hm, IntegralType.ofInt?_eq_some_iff.1 hsome]
    case h_2 => cases hn
  · intro hm
    exact ⟨n.val, hm, by rw [IntegralType.ofInt?_val]⟩

namespace AtomicValue

/-- A native value of a type carries an atomic value, which is of that type unless the type is the
one of all values. -/
theorem ofNative_of_hasNative {t : AtomicType} {w : NativeValue} (h : t.HasNative w) :
    ∃ v, ofNative t w = .ok v ∧ (t ≠ .anyAtomic → v.type = t) := by
  cases h with
  | anyAtomic v => exact ⟨v, rfl, fun h => absurd rfl h⟩
  | text k s => exact ⟨.text k s, rfl, fun _ => rfl⟩
  | boolean b => exact ⟨.boolean b, rfl, fun _ => rfl⟩
  | decimal d => exact ⟨.decimal d, rfl, fun _ => rfl⟩
  | double d => exact ⟨.double d, rfl, fun _ => rfl⟩
  | float x => exact ⟨.float x, rfl, fun _ => rfl⟩
  | integral k n => exact ⟨.integral k n, by simp [ofNative, bind, Except.bind], fun _ => rfl⟩
  | qname q => exact ⟨.qname q, rfl, fun _ => rfl⟩
  | dateTime d => exact ⟨.dateTime d, rfl, fun _ => rfl⟩
  | date d => exact ⟨.date d none, rfl, fun _ => rfl⟩

variable {v u : AtomicValue} {t : AtomicType} {ns : Namespaces}

theorem type_of_cast (ht : t ≠ .anyAtomic) (h : v.cast t ns = .ok u) : u.type = t := by
  simp only [cast, if_neg ht, Outcome.bind_eq_ok_iff, Outcome.mapError_eq_ok_iff] at h
  obtain ⟨w, hw, hu⟩ := h
  obtain ⟨u', hu', htype⟩ := ofNative_of_hasNative (Cast.hasNative_toNative hw)
  obtain rfl := Except.ok.inj (hu.symm.trans hu')
  exact htype ht

/-- A cast fails in its first step only, before there is a native value. -/
theorem cast_eq_error_iff {e : ConversionError} :
    v.cast t ns = .error e ↔ ∃ c, Cast.toNative v t ns = .error c ∧ e = .cast c := by
  unfold cast
  split
  case isTrue ht => simp [ht, Cast.toNative]
  case isFalse ht =>
    simp only [Outcome.bind_eq_error_iff, Outcome.mapError_eq_error_iff, Outcome.mapError_eq_ok_iff]
    constructor
    · rintro (⟨c, hc, rfl⟩ | ⟨w, hw, f, hf, -⟩)
      · exact ⟨c, hc, rfl⟩
      · obtain ⟨u, hu, -⟩ := ofNative_of_hasNative (Cast.hasNative_toNative hw)
        rw [hu] at hf
        cases hf
    · rintro ⟨c, hc, rfl⟩
      exact .inl ⟨c, hc, rfl⟩

end AtomicValue

/-! ### Absent values -/

theorem AtomicType.hasNative_of_neutral? {t : AtomicType} {v : NativeValue}
    (h : t.neutral? = some v) : t.HasNative v := by
  cases t with
  | text k =>
    obtain rfl := Option.some.inj h
    exact .text k ""
  | boolean =>
    obtain rfl := Option.some.inj h
    exact .boolean false
  | decimal =>
    obtain rfl := Option.some.inj h
    exact .decimal _
  | double =>
    obtain rfl := Option.some.inj h
    exact .double _
  | float =>
    obtain rfl := Option.some.inj h
    exact .float _
  | integral k =>
    obtain rfl := Option.some.inj h
    have hzero : k.InRange 0 := by cases k <;> decide
    have hword : (if k.isUnsigned then .uint ⟨0, by decide⟩ else .int ⟨0, by decide⟩) =
        NativeValue.ofIntegral k ⟨0, hzero⟩ := by
      unfold NativeValue.ofIntegral
      split <;> rfl
    rw [hword]
    exact .integral k _
  | anyAtomic | qname | dateTime | date => cases h

theorem NativeType.hasNative_of_default? {t : NativeType} {v : NativeValue}
    (h : t.default? = some v) : t.HasNative v := by
  cases t with
  | array =>
    obtain rfl := Option.some.inj h
    exact ⟨[], rfl, by simp⟩
  | nullable =>
    obtain rfl := Option.some.inj h
    exact .inl rfl
  | single e =>
    simp only [default?] at h
    split at h
    case isTrue hv =>
      obtain rfl := Option.some.inj h
      exact .inr ⟨by simpa using hv, rfl⟩
    case isFalse =>
      cases hs : e.shape with
      | atomic a =>
        refine .inl ?_
        rw [hs]
        exact .atomic (AtomicType.hasNative_of_neutral? (by simpa [hs] using h))
      | unit => simp [hs] at h
      | node => simp [hs] at h
      | item => simp [hs] at h

/-! ### Host types -/

namespace BaseType

theorem shape_ne_unit (t : BaseType) : t.shape ≠ .unit := by
  cases t <;> simp [shape]

theorem hasNative_toNative (t : BaseType) (x : t.Value) : t.describe.HasNative (t.toNative x) := by
  cases t with
  | bool => exact .inl (.atomic (.boolean x))
  | integer k => exact .inl (.atomic (.integral k.integral x))
  | float => exact .inl (.atomic (.float x))
  | double => exact .inl (.atomic (.double x))
  | string => exact .inl (.atomic (.text .string x))
  | qname => exact .inl (.atomic (.qname x))
  | dateTime => exact .inl (.atomic (.dateTime x))
  | date => exact .inl (.atomic (.date x))
  | node => exact .inl (.node x)
  | item => exact .inl (.item x)
  | enumeration e => exact .inl (.atomic (.text .string x.val))
  | reference n =>
    cases x with
    | none => exact .inr ⟨rfl, rfl⟩
    | some s => exact .inl (.atomic (.text .string s))

theorem fromNative_variant {e : Enumeration} {s : String} (h : s ∈ e.variants) :
    (enumeration e).fromNative (.string s) = .ok ⟨s, h⟩ := by
  simp [fromNative, NativeValue.toText, bind, Except.bind, h]

theorem fromNative_unknownVariant {e : Enumeration} {s : String} (h : s ∉ e.variants) :
    (enumeration e).fromNative (.string s) = .error (.unknownVariant s e.name) := by
  simp [fromNative, NativeValue.toText, bind, Except.bind, h]

/-- A native value of the described type is read, unless it is a text that is no variant of the
enumeration. -/
theorem fromNative_of_hasNative (t : BaseType) {v : NativeValue} (h : t.describe.HasNative v) :
    (∃ x, t.fromNative v = .ok x) ∨
      ∃ e s, t = .enumeration e ∧ s ∉ e.variants ∧
        t.fromNative v = .error (.unknownVariant s e.name) := by
  rcases h with h | ⟨hv, rfl⟩
  · cases t with
    | bool => rcases h with _ | ⟨⟨⟩⟩; exact .inl ⟨_, rfl⟩
    | integer k =>
      rcases h with _ | ⟨h⟩
      cases h with
      | integral _ n => exact .inl ⟨n, by simp [fromNative, bind, Except.bind]⟩
    | float => rcases h with _ | ⟨⟨⟩⟩; exact .inl ⟨_, rfl⟩
    | double => rcases h with _ | ⟨⟨⟩⟩; exact .inl ⟨_, rfl⟩
    | string => rcases h with _ | ⟨⟨⟩⟩; exact .inl ⟨_, rfl⟩
    | qname => rcases h with _ | ⟨⟨⟩⟩; exact .inl ⟨_, rfl⟩
    | dateTime => rcases h with _ | ⟨⟨⟩⟩; exact .inl ⟨_, rfl⟩
    | date => rcases h with _ | ⟨⟨⟩⟩; exact .inl ⟨_, rfl⟩
    | node => cases h; exact .inl ⟨_, rfl⟩
    | item => cases h; exact .inl ⟨_, rfl⟩
    | enumeration e =>
      rcases h with _ | ⟨h⟩
      cases h with
      | text _ s =>
        by_cases hs : s ∈ e.variants
        · exact .inl ⟨_, fromNative_variant hs⟩
        · exact .inr ⟨e, s, rfl, hs, fromNative_unknownVariant hs⟩
    | reference n => rcases h with _ | ⟨⟨⟩⟩; exact .inl ⟨_, rfl⟩
  · cases t with
    | reference n => exact .inl ⟨none, rfl⟩
    | _ => cases hv

end BaseType

end XPathExtension
