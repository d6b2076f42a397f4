import XPathExtension.Proofs.Delivery

/-!
The types of delivered items. A result without a declared type keeps the items that its values stand
for, which are of its own item type. Under a declared atomic type every delivered item is a value of
that type, and only the casts to it can fail. Delivery never blames the native values themselves.
-/

namespace XPathExtension

variable {ns : Namespaces}

namespace ItemTest

variable {test : ItemTest} {own : ElementShape} {i j : Item}

theorem deliverAs_itemTest {e : ElementType} (hi : e.shape.HasItem i) :
    e.itemTest.deliverAs e.shape ns i = .ok i := by
  obtain ⟨name, shape, valueType⟩ := e
  unfold deliverAs ElementType.itemTest
  cases hi with
  | atomic hv => simp [atomicType?]
  | node n => simp [atomicType?, isElementTest]
  | item => cases i <;> simp [atomicType?, isElementTest]

/-- An item is not delivered because it cannot be cast to the declared type, or because it is a node
with no element in it. -/
theorem deliverAs_eq_error {e : ConversionError} (h : test.deliverAs own ns i = .error e) :
    (test.atomicType? = none ∧ e = .noElement) ∨
      ∃ d c, test.atomicType? = some d ∧ Cast.toNative i.atomize d ns = .error c ∧ e = .cast c := by
  unfold deliverAs at h
  cases ht : test.atomicType? with
  | some d =>
    simp only [ht] at h
    split at h
    case isTrue => cases h
    case isFalse =>
      rw [Outcome.map_eq_error_iff, AtomicValue.cast_eq_error_iff] at h
      obtain ⟨c, hc, rfl⟩ := h
      exact .inr ⟨d, c, rfl, hc, rfl⟩
  | none =>
    refine .inl ⟨rfl, ?_⟩
    simp only [ht] at h
    cases i with
    | atomic v => cases h
    | node n =>
      dsimp only at h
      split at h
      case isTrue =>
        cases hn : n.firstElement? with
        | some e => simp [hn] at h
        | none => simpa [hn] using h.symm
      case isFalse => cases h

theorem type_of_deliverAs {d : AtomicType} (ht : test.atomicType? = some d) (hd : d ≠ .anyAtomic)
    (hi : own.HasItem i) (h : test.deliverAs own ns i = .ok j) :
    ∃ u, j = .atomic u ∧ u.type = d := by
  simp only [deliverAs, ht] at h
  split at h
  case isTrue hown =>
    obtain rfl := Except.ok.inj h
    subst hown
    obtain ⟨hv⟩ := hi
    exact ⟨_, rfl, hv⟩
  case isFalse =>
    obtain ⟨u, hu, rfl⟩ := Outcome.map_eq_ok_iff.1 h
    exact ⟨u, rfl, AtomicValue.type_of_cast hd hu⟩

theorem deliverAs_anyAtomic {a : AtomicType} (ht : test.atomicType? = some .anyAtomic)
    (hi : (ElementShape.atomic a).HasItem i) : test.deliverAs (.atomic a) ns i = .ok i := by
  obtain ⟨hv⟩ := hi
  simp only [deliverAs, ht]
  split
  case isTrue => rfl
  case isFalse => simp [Item.atomize, AtomicValue.cast]

end ItemTest

theorem CastError.code_mem (c : CastError) :
    c.code ∈ [ErrorCode.xpty0004, .forg0001, .foca0002, .fons0004] := by
  cases c <;> simp [code]

namespace HostType

theorem hasItem_items {w : Wrapping} {t : BaseType} {y : (w.wrap t).Value} {i : Item}
    (hi : i ∈ (w.wrap t).items y) : t.shape.HasItem i := by
  have hbase (y : t.Value) (hi : i ∈ (HostType.base t).items y) : t.shape.HasItem i :=
    BaseType.hasItem_item? (Option.mem_toList.1 hi)
  cases w with
  | bare => exact hbase y hi
  | list =>
    obtain ⟨y', -, hi⟩ := List.mem_flatMap.1 hi
    exact hbase y' hi
  | option =>
    cases y with
    | none => cases hi
    | some y' => exact hbase y' hi

end HostType

/-- What a sequence type makes of the items of a result. -/
inductive Delivers (type : SequenceType) (native : NativeType) (ns : Namespaces) :
    List Item → Except ConversionError Sequence → Prop
  /-- The function only acts. -/
  | nothing (h : native.isUnit = true) : Delivers type native ns [] (.ok [])
  | items {test : ItemTest} {e : ElementType} {o : Occurrence} {is : List Item}
      (htype : type = .typed ⟨test, e⟩ o) (hu : native.isUnit = false)
      (he : native.elementType = .ok e) (hfits : native.Fits e test o)
      (hcount : native.occurrence.accepts is.length = true)
      (his : ∀ i ∈ is, e.shape.HasItem i) :
      Delivers type native ns is (is.mapM (test.deliverAs e.shape ns))

namespace Delivers

variable {type : SequenceType} {native : NativeType} {declared : Option String}
  {bindings : Namespaces}

/-- A host value is delivered item by item. -/
theorem ofHost (hi : SequenceType.infer native declared bindings = .ok type)
    (hempty : type = .empty → native.isUnit = true) {t : HostType} (ht : native.Describes t)
    (x : t.Value) : Delivers type native ns (t.items x)
      (Slot.deliver ⟨type, native⟩ ns (t.toNative x)) := by
  cases hu : native.isUnit with
  | true =>
    obtain rfl := ht.eq_unit hu
    exact .nothing hu
  | false =>
    cases SequenceType.carries_of_infer hi with
    | empty => simp [hu] at hempty
    | unit hunit => simp [hu] at hunit
    | @typed e test o _ he hfits =>
      have hcount := ht.accepts_items hu he x
      obtain ⟨w, b, rfl, rfl⟩ := ht.eq_wrap hu he
      rw [Slot.deliver_toNative rfl hfits.node x]
      exact .items rfl hu he hfits hcount fun i hi => HostType.hasItem_items hi

variable {is : List Item} {out : Except ConversionError Sequence}

/-- Delivery never blames a native value. -/
theorem ne_native (h : Delivers type native ns is out) (f : NativeError) :
    out ≠ .error (.native f) := by
  intro hf
  cases h with
  | nothing => cases hf
  | items htype hu he hfits hcount his =>
    obtain ⟨_, i, _, _, _, _, hi⟩ := Outcome.mapM_eq_error_iff.1 hf
    rcases ItemTest.deliverAs_eq_error hi with ⟨-, h⟩ | ⟨_, _, -, -, h⟩ <;> cases h

theorem eq_items_of_none (h : Delivers type native ns is out)
    (hi : SequenceType.infer native none bindings = .ok type) :
    out = .ok is ∧ ∀ i ∈ is, native.innermost.shape.HasItem i := by
  cases h with
  | nothing => exact ⟨rfl, by simp⟩
  | items htype hu he hfits hcount his =>
    obtain ⟨e, he', hnative⟩ := SequenceType.infer_none_eq_ok_iff.1 hi
    obtain rfl := Except.ok.inj (he'.symm.trans he)
    rw [SequenceType.ofNative, if_neg (by simp [hu])] at hnative
    cases hnative.trans htype
    rw [NativeType.innermost_of_elementType he]
    exact ⟨Outcome.mapM_eq_self fun i hi => ItemTest.deliverAs_itemTest (his i hi), his⟩

variable {d : AtomicType}

theorem type_of_mem (h : Delivers type native ns is out)
    (hd : type.item?.bind (·.test.atomicType?) = some d) (hany : d ≠ .anyAtomic) {js : Sequence}
    (hjs : out = .ok js) {j : Item} (hj : j ∈ js) : ∃ u, j = .atomic u ∧ u.type = d := by
  cases h with
  | nothing =>
    obtain rfl := Except.ok.inj hjs
    cases hj
  | items htype hu he hfits hcount his =>
    subst htype
    obtain ⟨i, hi, hij⟩ := Outcome.exists_of_mem_right (Outcome.mapM_eq_ok_iff.1 hjs) hj
    exact ItemTest.type_of_deliverAs hd hany (his i hi) hij

theorem cast_of_error (h : Delivers type native ns is out)
    (hd : type.item?.bind (·.test.atomicType?) = some d) {e : ConversionError}
    (he : out = .error e) :
    ∃ i ∈ is, ∃ c, Cast.toNative i.atomize d ns = .error c ∧ e = .cast c := by
  cases h with
  | nothing => cases he
  | items htype hu helement hfits hcount his =>
    subst htype
    obtain ⟨before, i, after, js, rfl, -, hi⟩ := Outcome.mapM_eq_error_iff.1 he
    rcases ItemTest.deliverAs_eq_error hi with ⟨ht, -⟩ | ⟨d', c, ht, hc, rfl⟩
    · exact absurd (hd.symm.trans ht) (by simp)
    · obtain rfl := Option.some.inj (hd.symm.trans ht)
      exact ⟨i, by simp, c, hc, rfl⟩

theorem eq_items_of_anyAtomic (h : Delivers type native ns is out)
    (hd : type.item?.bind (·.test.atomicType?) = some .anyAtomic) {a : AtomicType}
    (ha : native.innermost.shape = .atomic a) :
    out = .ok is ∧ ∀ i ∈ is, ∃ u, i = .atomic u ∧ u.type = a := by
  cases h with
  | nothing => exact ⟨rfl, by simp⟩
  | items htype hu he hfits hcount his =>
    subst htype
    rw [NativeType.innermost_of_elementType he] at ha
    rw [ha] at his ⊢
    refine ⟨Outcome.mapM_eq_self fun i hi => ItemTest.deliverAs_anyAtomic hd (his i hi),
      fun i hi => ?_⟩
    obtain ⟨hu⟩ := his i hi
    exact ⟨_, rfl, hu⟩

end Delivers

namespace ReturnType

/-- The typing of delivered results. The native value is blamed only where an empty sequence is
declared for a result that is not empty. -/
theorem typing_of_deliver (r : ReturnType) (declared : Option String) (bindings : Namespaces)
    {type : SequenceType} (hi : SequenceType.infer r.describe declared bindings = .ok type) (x : r.Value)
    {v : NativeValue} (hv : r.toNative x = .ok v) (ns : Namespaces)
    {out : Except ConversionError Sequence} (hout : Slot.deliver ⟨type, r.describe⟩ ns v = out) :
    ∃ y, r.outcome x = .ok y ∧
      (∀ f, out = .error (.native f) → type = .empty ∧ r.describe.isUnit = false) ∧
      (declared = none → out = .ok (r.host.items y) ∧
        ∀ i ∈ r.host.items y, r.describe.innermost.shape.HasItem i) ∧
      (∀ d, type.item?.bind (·.test.atomicType?) = some d → d ≠ .anyAtomic →
        (∀ js, out = .ok js → ∀ j ∈ js, ∃ u, j = .atomic u ∧ u.type = d) ∧
        ∀ e, out = .error e → (∃ i ∈ r.host.items y, ∃ c,
          Cast.toNative i.atomize d ns = .error c ∧ e = .cast c) ∧
          e.code ∈ [ErrorCode.xpty0004, .forg0001, .foca0002, .fons0004]) ∧
      (type.item?.bind (·.test.atomicType?) = some .anyAtomic →
        ∀ a, r.describe.innermost.shape = .atomic a → out = .ok (r.host.items y) ∧
          ∀ i ∈ r.host.items y, ∃ u, i = .atomic u ∧ u.type = a) := by
  rw [toNative_eq, Outcome.map_eq_ok_iff] at hv
  obtain ⟨y, hy, rfl⟩ := hv
  refine ⟨y, hy, ?_⟩
  by_cases hempty : type = .empty → r.describe.isUnit = true
  · have h : Delivers type r.describe ns (r.host.items y) out :=
      hout ▸ Delivers.ofHost hi hempty r.describes y
    refine ⟨fun f hf => absurd hf (h.ne_native f), ?_, fun d hd hany => ⟨?_, ?_⟩,
      fun hd a => h.eq_items_of_anyAtomic hd⟩
    · rintro rfl
      exact h.eq_items_of_none hi
    · intro js hjs j hj
      exact h.type_of_mem hd hany hjs hj
    · intro e he
      obtain ⟨i, hmem, c, hc, rfl⟩ := h.cast_of_error hd he
      exact ⟨⟨i, hmem, c, hc, rfl⟩, c.code_mem⟩
  · -- the empty sequence is declared, so there is no item type and the type is not the native one
    rw [Classical.not_imp, Bool.not_eq_true] at hempty
    obtain ⟨rfl, hu⟩ := hempty
    have hitem (d : AtomicType) : SequenceType.empty.item?.bind (·.test.atomicType?) ≠ some d := by
      simp [SequenceType.item?]
    refine ⟨fun _ _ => ⟨rfl, hu⟩, ?_, fun d hd _ => absurd hd (hitem d),
      fun hd => absurd hd (hitem .anyAtomic)⟩
    rintro rfl
    obtain ⟨e, -, hnative⟩ := SequenceType.infer_none_eq_ok_iff.1 hi
    simp [SequenceType.ofNative, hu] at hnative

theorem typing_of_deliver_strings :
    ∃ type v y, SequenceType.infer (list (base (.integer .i32))).describe (some "xs:string*")
        .builtin = .ok type ∧
      toNative (list (base (.integer .i32))) [⟨5, by decide⟩, ⟨-7, by decide⟩] = .ok v ∧
      outcome (list (base (.integer .i32))) [⟨5, by decide⟩, ⟨-7, by decide⟩] = .ok y ∧
      ∀ js, Slot.deliver ⟨type, (list (base (.integer .i32))).describe⟩ .empty v = .ok js →
        ∀ j ∈ js, ∃ u, j = .atomic u ∧ u.type = .text .string := by
  have hi : SequenceType.infer (list (base (.integer .i32))).describe (some "xs:string*") .builtin =
      .ok (.typed ⟨.atomic (.text .string), BaseType.describe (.integer .i32)⟩ .zeroOrMore) := by
    decide +kernel
  have hv : toNative (list (base (.integer .i32))) [⟨5, by decide⟩, ⟨-7, by decide⟩] =
      .ok (.sequence [.int ⟨5, by decide⟩, .int ⟨-7, by decide⟩]) := by rfl
  obtain ⟨y, hy, -, -, hcast, -⟩ := typing_of_deliver _ _ _ hi _ hv .empty rfl
  exact ⟨_, _, y, hi, hv, hy, (hcast (.text .string) rfl (by decide)).1⟩

/-- A declared empty sequence is inferred for a type with a neutral value, and then nothing can be
delivered. Modules do not have such results. -/
theorem deliver_mismatch_of_empty :
    SequenceType.infer (base (.integer .i32)).describe (some "empty-sequence()") .builtin =
        .ok .empty ∧
      toNative (base (.integer .i32)) ⟨5, by decide⟩ = .ok (.int ⟨5, by decide⟩) ∧
      Slot.deliver ⟨.empty, (base (.integer .i32)).describe⟩ .empty (.int ⟨5, by decide⟩) =
        .error (.native (.mismatch "atomic native type" "signed integer")) := by
  refine ⟨by decide +kernel, by rfl, by rfl⟩

end ReturnType

end XPathExtension
