import XPathExtension.Proofs.Arguments
import XPathExtension.Proofs.NativeTyping

/-!
Arguments as native values. Where the sequence type of a parameter was inferred, an argument that is
received is a native value of the native type, and the host reads it.
-/

namespace XPathExtension

namespace NativeType

variable {native : NativeType} {e : ElementType}

theorem elementType_array {n : String} {t : NativeType} {v : Bool}
    (h : (array n t v).elementType = .ok e) : t = .single e ∧ e.shape ≠ .unit := by
  cases t with
  | single t =>
    simp only [elementType] at h
    split at h
    case isTrue => cases h
    case isFalse hu =>
      obtain rfl := Except.ok.inj h
      exact ⟨rfl, hu⟩
  | array => cases h
  | nullable => cases h

theorem elementType_nullable {n : String} {t : NativeType} {v : Bool}
    (h : (nullable n t v).elementType = .ok e) : t = .single e ∧ e.shape ≠ .unit := by
  cases t with
  | single t =>
    simp only [elementType] at h
    split at h
    case isTrue => cases h
    case isFalse hu =>
      obtain rfl := Except.ok.inj h
      exact ⟨rfl, hu⟩
  | array => cases h
  | nullable => cases h

/-- The type of one item is the native type itself or stands right inside its only wrapper. -/
theorem elementType_eq_ok (h : native.elementType = .ok e) :
    native = .single e ∨ (∃ n v, native = .array n (.single e) v) ∨
      ∃ n v, native = .nullable n (.single e) v := by
  cases native with
  | single t =>
    obtain rfl := Except.ok.inj h
    exact .inl rfl
  | array n t v =>
    obtain ⟨rfl, -⟩ := elementType_array h
    exact .inr (.inl ⟨n, v, rfl⟩)
  | nullable n t v =>
    obtain ⟨rfl, -⟩ := elementType_nullable h
    exact .inr (.inr ⟨n, v, rfl⟩)

theorem innermost_of_elementType (h : native.elementType = .ok e) : native.innermost = e := by
  rcases elementType_eq_ok h with rfl | ⟨n, v, rfl⟩ | ⟨n, v, rfl⟩ <;> rfl

theorem hasNative_of_elementType (h : native.elementType = .ok e) (ha : native.isArray = false)
    {v : NativeValue} (hv : e.shape.HasNative v) : native.HasNative v := by
  rcases elementType_eq_ok h with rfl | ⟨n, w, rfl⟩ | ⟨n, w, rfl⟩
  · exact .inl hv
  · cases ha
  · exact .inr (.inl hv)

theorem hasNative_sequence (h : native.elementType = .ok e) (ha : native.isArray = true)
    {vs : List NativeValue} (hvs : ∀ v ∈ vs, e.shape.HasNative v) :
    native.HasNative (.sequence vs) := by
  rcases elementType_eq_ok h with rfl | ⟨n, w, rfl⟩ | ⟨n, w, rfl⟩
  · cases ha
  · exact ⟨vs, rfl, fun v hv => .inl (hvs v hv)⟩
  · cases ha

theorem hasNative_gather (h : native.elementType = .ok e) {vs : List NativeValue}
    (hvs : ∀ v ∈ vs, e.shape.HasNative v) {v : NativeValue} (hv : native.gather vs = some v) :
    native.HasNative v := by
  cases ha : native.isArray with
  | true =>
    rw [gather_of_isArray ha] at hv
    obtain rfl := Option.some.inj hv
    exact hasNative_sequence h ha hvs
  | false =>
    match vs with
    | [] =>
      rw [gather_nil] at hv
      exact hasNative_of_default? hv
    | [w] =>
      rw [gather_singleton ha] at hv
      obtain rfl := Option.some.inj hv
      exact hasNative_of_elementType h ha (hvs w (by simp))
    | w :: w' :: rest => simp [gather, ha] at hv

end NativeType

namespace Slot

variable {s : Slot} {ns : Namespaces} {v : NativeValue}

theorem hasNative_receiveItem {t : ItemType} {i : Item} (h : receiveItem t ns i = .ok v) :
    t.native.shape.HasNative v := by
  unfold receiveItem at h
  cases hs : t.native.shape with
  | unit => simp [hs] at h
  | atomic a =>
    have hcast : Cast.toNative i.atomize a ns = .ok v := by simpa [hs] using h
    exact .atomic (Cast.hasNative_toNative hcast)
  | node =>
    obtain ⟨n, -, rfl⟩ : ∃ n, requireNode t i = .ok n ∧ .node n = v := by simpa [hs] using h
    exact .node n
  | item =>
    simp only [hs] at h
    split at h
    · obtain ⟨a, -, rfl⟩ := Outcome.map_eq_ok_iff.1 h
      exact .item (.atomic a)
    · split at h
      · obtain ⟨n, -, rfl⟩ := Outcome.map_eq_ok_iff.1 h
        exact .item (.node n)
      · obtain rfl := Except.ok.inj h
        exact .item i

/-- What is received is a native value of the native type. -/
theorem hasNative_receive (hu : s.native.isUnit = false) (hc : s.native.Carries s.type)
    {arg : Sequence} (h : s.receive arg ns = .ok v) : s.native.HasNative v := by
  obtain ⟨-, vs, hvs, hv⟩ := (receive_eq_ok_iff hu hc).1 h
  have hitem {w : NativeValue} (hw : w ∈ vs) :
      ∃ t, s.type.item? = some t ∧ t.native.shape.HasNative w := by
    obtain ⟨i, -, t, ht, hi⟩ := Outcome.exists_of_mem_right hvs hw
    exact ⟨t, ht, hasNative_receiveItem hi⟩
  generalize s.type = type at hc hitem
  cases hc with
  | empty =>
    -- no item is received as one of the empty type
    obtain rfl : vs = [] := by
      refine List.eq_nil_iff_forall_not_mem.2 fun w hw => ?_
      obtain ⟨t, ht, -⟩ := hitem hw
      cases ht
    rw [NativeType.gather_nil] at hv
    exact NativeType.hasNative_of_default? hv
  | unit hunit => simp [hunit] at hu
  | @typed e test o _ he hfits =>
    refine NativeType.hasNative_gather he (fun w hw => ?_) hv
    obtain ⟨t, ht, hw⟩ := hitem hw
    obtain rfl := Option.some.inj ht
    exact hw

end Slot

theorem HostType.fromNative_option {t : HostType} {v : NativeValue} (h : v ≠ .null) :
    (HostType.option t).fromNative v = some <$> t.fromNative v := by
  rw [fromNative]
  · cases t.fromNative v <;> rfl
  · exact h

/-- How a parameter type is made of a type without a wrapper. -/
inductive Wrapping where
  | bare | list | option
deriving DecidableEq, Repr

namespace Wrapping

def wrap : Wrapping → BaseType → HostType
  | bare, t => .base t
  | list, t => .list (.base t)
  | option, t => .option (.base t)

variable {w : Wrapping} {t : BaseType}

theorem isUnit_describe_wrap : (w.wrap t).describe.isUnit = false := by
  cases w with
  | bare => cases t <;> rfl
  | list => rfl
  | option => rfl

theorem elementType_describe_wrap (w : Wrapping) (t : BaseType) :
    (w.wrap t).describe.elementType = .ok t.describe := by
  cases w with
  | bare => rfl
  | list => exact if_neg t.shape_ne_unit
  | option => exact if_neg t.shape_ne_unit

theorem fromNative_of_hasNative {v : NativeValue} (h : (w.wrap t).describe.HasNative v) :
    (∃ x, (w.wrap t).fromNative v = .ok x) ∨
      ∃ e s, t = .enumeration e ∧ s ∉ e.variants ∧
        (w.wrap t).fromNative v = .error (.unknownVariant s e.name) := by
  cases w with
  | bare => exact t.fromNative_of_hasNative h
  | list =>
    obtain ⟨vs, rfl, hvs⟩ := h
    cases hr : vs.mapM t.fromNative with
    | ok xs => exact .inl ⟨xs, hr⟩
    | error f =>
      -- the error is that of the first value that is not read
      obtain ⟨before, v, after, xs, rfl, -, hv⟩ := Outcome.mapM_eq_error_iff.1 hr
      rcases t.fromNative_of_hasNative (hvs v (by simp)) with ⟨x, hx⟩ | ⟨e, s, rfl, hs, he⟩
      · rw [hx] at hv
        cases hv
      · obtain rfl := Except.error.inj (hv.symm.trans he)
        exact .inr ⟨e, s, rfl, hs, hr⟩
  | option =>
    rcases h with rfl | h
    · exact .inl ⟨none, rfl⟩
    · by_cases hn : v = .null
      · subst hn
        exact .inl ⟨none, rfl⟩
      · rcases t.fromNative_of_hasNative h with ⟨x, hx⟩ | ⟨e, s, rfl, hs, he⟩
        · exact .inl ⟨some x, (HostType.fromNative_option hn).trans (congrArg (some <$> ·) hx)⟩
        · exact .inr ⟨e, s, rfl, hs,
            (HostType.fromNative_option hn).trans (congrArg (some <$> ·) he)⟩

/-- What is received for a parameter is read by the host, unless a text is no variant of an
enumeration. The item type of the parameter is inferred from any declaration or none. -/
theorem fromNative_of_receive (w : Wrapping) (t : BaseType) (declared : Option String)
    (bindings : Namespaces) {type : SequenceType}
    (hi : SequenceType.infer (w.wrap t).describe declared bindings = .ok type)
    (arg : Sequence) (ns : Namespaces) {v : NativeValue}
    (hr : Slot.receive ⟨type, (w.wrap t).describe⟩ arg ns = .ok v) :
    ((∃ x, (w.wrap t).fromNative v = .ok x) ∨
      ∃ e s f, t = .enumeration e ∧ s ∉ e.variants ∧ (w.wrap t).fromNative v = .error f ∧
        f = .unknownVariant s e.name ∧ f.toError.kind = .forg0001) ∧
    (w.wrap t).describe.HasNative v ∧
    (w = .bare → t.isValueType = true → v ≠ .null) := by
  have hv : (w.wrap t).describe.HasNative v :=
    Slot.hasNative_receive isUnit_describe_wrap (SequenceType.carries_of_infer hi) hr
  refine ⟨?_, hv, ?_⟩
  · rcases fromNative_of_hasNative hv with hx | ⟨e, s, rfl, hs, he⟩
    · exact .inl hx
    · exact .inr ⟨e, s, _, rfl, hs, he, rfl, Error.ofCode_kind _ _⟩
  · rintro rfl ht rfl
    rcases hv with hv | ⟨hv, -⟩
    · exact hv.ne_null rfl
    · exact Bool.noConfusion (ht.symm.trans hv)

theorem fromNative_of_receive_bytes :
    ∃ type v, SequenceType.infer (wrap .list (.integer .u8)).describe (some "xs:integer+") .builtin
        = .ok type ∧
      Slot.receive ⟨type, (wrap .list (.integer .u8)).describe⟩
        [.atomic (.integral .int ⟨200, by decide⟩), .atomic (.boolean true)] .empty = .ok v ∧
      ∃ x, (wrap .list (.integer .u8)).fromNative v = .ok x := by
  have hi : SequenceType.infer (wrap .list (.integer .u8)).describe (some "xs:integer+") .builtin =
      .ok (.typed ⟨.atomic (.integral .integer), BaseType.describe (.integer .u8)⟩ .oneOrMore) := by
    decide +kernel
  have hr : Slot.receive
      ⟨.typed ⟨.atomic (.integral .integer), BaseType.describe (.integer .u8)⟩ .oneOrMore,
        (wrap .list (.integer .u8)).describe⟩
      [.atomic (.integral .int ⟨200, by decide⟩), .atomic (.boolean true)] .empty =
      .ok (.sequence [.uint ⟨200, by decide⟩, .uint ⟨1, by decide⟩]) := by rfl
  rcases (fromNative_of_receive _ _ _ _ hi _ _ hr).1 with hx | ⟨_, _, _, ht, -⟩
  · exact ⟨_, _, hi, hr, hx⟩
  · cases ht

end Wrapping

end XPathExtension
