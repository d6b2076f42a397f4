import XPathExtension.Conversion.Slot
import XPathExtension.Native.ReturnType
import XPathExtension.Proofs.Receiving

/-!
Results as sequences. What is delivered for a native value is what is delivered for its leaves, one
after the other. The leaves of a result are its present values, each of which stands for one item;
a declared test says what becomes of that item.
-/

namespace XPathExtension

/-! ### Leaves -/

namespace NativeValue

mutual

/-- The present parts of a native value that are no sequences, from left to right. -/
def leaves : NativeValue → List NativeValue
  | .unit => []
  | .null => []
  | .sequence vs => leavesAll vs
  | v => [v]

def leavesAll : List NativeValue → List NativeValue
  | [] => []
  | v :: vs => leaves v ++ leavesAll vs

end

@[simp] theorem leavesAll_eq_flatMap (vs : List NativeValue) :
    leavesAll vs = vs.flatMap leaves := by
  induction vs with
  | nil => simp [leavesAll]
  | cons v vs ih => simp [leavesAll, ih]

end NativeValue

namespace Slot

variable (s : Slot) (ns : Namespaces)

mutual

/-- What is delivered is the items of the leaves in order. -/
theorem deliver_eq_mapM_leaves (v : NativeValue) :
    s.deliver ns v = v.leaves.mapM fun w => s.deliverItem w ns := by
  cases v with
  | unit => rfl
  | null => rfl
  | sequence vs => rw [deliver, NativeValue.leaves, deliverAll_eq_mapM_leaves vs]
  | _ =>
    simp only [deliver, NativeValue.leaves, List.mapM_cons, List.mapM_nil, bind_pure_comp, map_pure]
    rfl

theorem deliverAll_eq_mapM_leaves (vs : List NativeValue) :
    s.deliverAll ns vs = (NativeValue.leavesAll vs).mapM fun w => s.deliverItem w ns := by
  cases vs with
  | nil => rfl
  | cons v vs =>
    rw [deliverAll, NativeValue.leavesAll, List.mapM_append, deliver_eq_mapM_leaves v,
      deliverAll_eq_mapM_leaves vs]

end

end Slot

/-! ### Items of results -/

/-- The item that a host value stands for, if it is present. -/
def BaseType.item? : (t : BaseType) → t.Value → Option Item
  | bool, b => some (.atomic (.boolean b))
  | integer k, n => some (.atomic (.integral k.integral n))
  | float, x => some (.atomic (.float x))
  | double, d => some (.atomic (.double d))
  | string, s => some (.atomic (.text .string s))
  | qname, q => some (.atomic (.qname q))
  | dateTime, d => some (.atomic (.dateTime d))
  | date, d => some (.atomic (.date d none))
  | node, n => some (.node n)
  | item, i => some i
  | enumeration _, s => some (.atomic (.text .string s.val))
  | reference _, none => none
  | reference _, some s => some (.atomic (.text .string s))

/-- The items that the present values in a host value stand for, in order. -/
def HostType.items : (t : HostType) → t.Value → List Item
  | base t, x => (t.item? x).toList
  | list t, xs => List.flatMap t.items xs
  | option t, x => x.elim [] t.items
  | unit, () => []

inductive ElementShape.HasItem : ElementShape → Item → Prop
  | atomic {t : AtomicType} {v : AtomicValue} (h : v.type = t) : HasItem (.atomic t) (.atomic v)
  | node (n : Node) : HasItem .node (.node n)
  | item (i : Item) : HasItem .item i

namespace BaseType

variable {t : BaseType} {x : t.Value} {i : Item}

theorem hasItem_item? (h : t.item? x = some i) : t.shape.HasItem i := by
  cases t with
  | node =>
    obtain rfl := Option.some.inj h
    exact .node x
  | item =>
    obtain rfl := Option.some.inj h
    exact .item x
  | reference n =>
    cases x with
    | none => cases h
    | some s =>
      obtain rfl := Option.some.inj h
      exact .atomic rfl
  | _ =>
    obtain rfl := Option.some.inj h
    exact .atomic rfl

theorem leaves_toNative (t : BaseType) (x : t.Value) :
    (t.toNative x).leaves = if (t.item? x).isSome then [t.toNative x] else [] := by
  cases t with
  | integer k =>
    simp only [toNative, NativeValue.ofIntegral, item?]
    split <;> rfl
  | reference n => cases x <;> rfl
  | _ => rfl

end BaseType

namespace ItemTest

/-- What is delivered for an item of a native shape where the test is declared. -/
def deliverAs (test : ItemTest) (own : ElementShape) (ns : Namespaces) (i : Item) :
    Except ConversionError Item :=
  match test.atomicType? with
  | some d => if own = .atomic d then .ok i else .atomic <$> i.atomize.cast d ns
  | none =>
    match i with
    | .atomic v => .ok (.atomic v)
    | .node n =>
      if test.isElementTest then
        match n.firstElement? with
        | some e => .ok (.node e)
        | none => .error .noElement
      else .ok (.node n)

end ItemTest

namespace Slot

variable {s : Slot} {ns : Namespaces} {test : ItemTest}

theorem deliverScalar_eq {e : ElementType} {a : AtomicType} {v : NativeValue} {u : AtomicValue}
    (hs : s.type.item? = some ⟨test, e⟩) (ha : e.shape = .atomic a)
    (hv : AtomicValue.ofNative a v = .ok u) :
    s.deliverScalar v ns = test.deliverAs e.shape ns (.atomic u) := by
  have hown : e.atomicType? = some a := by simp [ElementType.atomicType?, ha]
  simp only [deliverScalar, hs, hown, hv, ItemTest.deliverAs, ha, ElementShape.atomic.injEq]
  cases test.atomicType? with
  | none => rfl
  | some d =>
    by_cases hd : d = a
    · simp [hd, bind, Except.bind, Except.mapError, pure, Except.pure]
    · by_cases hany : d = .anyAtomic
      · subst hany
        simp only [Ne.symm hd, if_false]
        rfl
      · simp only [hd, hany, Ne.symm hd, or_self, if_false]
        rfl

theorem deliverNode_eq {e : ElementType} {own : ElementShape} (hs : s.type.item? = some ⟨test, e⟩)
    (ht : test.atomicType? = none) (n : Node) :
    s.deliverNode n = test.deliverAs own ns (.node n) := by
  unfold deliverNode ItemTest.deliverAs
  rw [hs, ht]
  rfl

theorem deliverItem_toNative {t : BaseType} (hs : s.type.item? = some ⟨test, t.describe⟩)
    (hnode : t.shape = .node → test.atomicType? = none) {x : t.Value} {i : Item}
    (hi : t.item? x = some i) :
    s.deliverItem (t.toNative x) ns = test.deliverAs t.shape ns i := by
  cases t with
  | node =>
    obtain rfl := Option.some.inj hi
    exact deliverNode_eq hs (hnode rfl) x
  | item =>
    obtain rfl := Option.some.inj hi
    cases ht : test.atomicType? with
    | some d => simp [BaseType.toNative, deliverItem, hs, ht, ItemTest.deliverAs, BaseType.shape]
    | none =>
      cases x with
      | node n => simpa [BaseType.toNative, deliverItem, hs, ht] using deliverNode_eq hs ht n
      | atomic v => simp [BaseType.toNative, deliverItem, hs, ht, ItemTest.deliverAs]
  | integer k =>
    obtain rfl := Option.some.inj hi
    have hscalar : s.deliverItem (.ofIntegral k.integral x) ns =
        s.deliverScalar (.ofIntegral k.integral x) ns := by
      unfold NativeValue.ofIntegral
      split <;> rfl
    rw [BaseType.toNative, hscalar]
    refine deliverScalar_eq hs rfl ?_
    simp [AtomicValue.ofNative, bind, Except.bind]
  | reference n =>
    cases x with
    | none => cases hi
    | some s =>
      obtain rfl := Option.some.inj hi
      exact deliverScalar_eq hs rfl rfl
  | _ =>
    obtain rfl := Option.some.inj hi
    exact deliverScalar_eq hs rfl rfl

theorem mapM_leaves_toNative {t : BaseType} (hs : s.type.item? = some ⟨test, t.describe⟩)
    (hnode : t.shape = .node → test.atomicType? = none) (x : t.Value) :
    ((t.toNative x).leaves.mapM fun w => s.deliverItem w ns) =
      (t.item? x).toList.mapM (test.deliverAs t.shape ns) := by
  rw [BaseType.leaves_toNative]
  cases hi : t.item? x with
  | none => rfl
  | some i =>
    rw [Option.isSome_some, if_pos rfl, Option.toList_some, List.mapM_cons, List.mapM_cons,
      deliverItem_toNative hs hnode hi]
    rfl

/-- What is delivered for a host value is what is delivered for its items. -/
theorem deliver_toNative {w : Wrapping} {t : BaseType}
    (hs : s.type.item? = some ⟨test, t.describe⟩)
    (hnode : t.shape = .node → test.atomicType? = none) (x : (w.wrap t).Value) :
    s.deliver ns ((w.wrap t).toNative x) =
      ((w.wrap t).items x).mapM (test.deliverAs t.shape ns) := by
  rw [deliver_eq_mapM_leaves]
  cases w with
  | bare => exact mapM_leaves_toNative hs hnode x
  | list =>
    change (NativeValue.leavesAll (List.map t.toNative x)).mapM _ =
      (List.flatMap (fun y => (t.item? y).toList) x).mapM _
    rw [NativeValue.leavesAll_eq_flatMap]
    induction x with
    | nil => rfl
    | cons y ys ih =>
      rw [List.map_cons, List.flatMap_cons, List.flatMap_cons, List.mapM_append, List.mapM_append,
        mapM_leaves_toNative hs hnode y, ih]
  | option =>
    cases x with
    | none => rfl
    | some y => exact mapM_leaves_toNative hs hnode y

end Slot

/-! ### Types of results -/

/-- The host types that a native type may be the description of. Names are not looked at, so that a
result with failures in it is described like one without. -/
inductive NativeType.Describes : NativeType → HostType → Prop
  | base (t : BaseType) : Describes (.single t.describe) (.base t)
  | unit {e : ElementType} (h : e.shape = .unit) : Describes (.single e) .unit
  | list {n : String} {d : NativeType} {t : HostType} {v : Bool} (h : Describes d t) :
      Describes (.array n d v) (.list t)
  | option {n : String} {d : NativeType} {t : HostType} {v : Bool} (h : Describes d t) :
      Describes (.nullable n d v) (.option t)

theorem HostType.describes (t : HostType) : t.describe.Describes t := by
  induction t with
  | base t => exact .base t
  | list t ih => exact .list ih
  | option t ih => exact .option ih
  | unit => exact .unit rfl

namespace ReturnType

theorem describes (r : ReturnType) : r.describe.Describes r.host := by
  induction r with
  | base t => exact .base t
  | list t ih => exact .list ih
  | option t ih => exact .option ih
  | unit => exact .unit rfl
  | fallible t failure ih => exact ih

theorem toNative_eq (r : ReturnType) (x : r.Value) :
    r.toNative x = r.host.toNative <$> r.outcome x := by
  induction r with
  | base t => rfl
  | unit => rfl
  | fallible t failure ih =>
    cases x with
    | error e => rfl
    | ok x => exact ih x
  | option t ih =>
    cases x with
    | none => rfl
    | some x =>
      rw [toNative, ih]
      change _ = (HostType.option t.host).toNative <$> some <$> t.outcome x
      cases t.outcome x <;> rfl
  | list t ih =>
    change NativeValue.sequence <$> List.mapM t.toNative x =
      (HostType.list t.host).toNative <$> List.mapM t.outcome x
    have hvs : List.mapM t.toNative x = List.map t.host.toNative <$> List.mapM t.outcome x := by
      rw [← Outcome.mapM_map]
      exact congrArg (List.mapM · x) (funext ih)
    rw [hvs]
    cases List.mapM t.outcome x <;> rfl

end ReturnType

theorem BaseType.accepts_item? (t : BaseType) (x : t.Value) :
    (NativeType.single t.describe).occurrence.accepts (t.item? x).toList.length = true := by
  cases t with
  | reference n => cases x <;> rfl
  | _ => rfl

namespace NativeType.Describes

variable {native : NativeType} {t : HostType} {e : ElementType}

theorem eq_unit (h : native.Describes t) (hu : native.isUnit = true) : t = .unit := by
  cases h with
  | base t =>
    have hshape : t.shape = .unit := by simpa [isUnit, BaseType.describe] using hu
    exact absurd hshape t.shape_ne_unit
  | unit => rfl
  | list => cases hu
  | option => cases hu

theorem eq_base (h : (NativeType.single e).Describes t) (hu : e.shape ≠ .unit) :
    ∃ b, t = .base b ∧ e = b.describe := by
  cases h with
  | base t => exact ⟨t, rfl, rfl⟩
  | unit h => exact absurd h hu

/-- The described types that give items wrap a type once at most. -/
theorem eq_wrap (h : native.Describes t) (hu : native.isUnit = false)
    (he : native.elementType = .ok e) : ∃ w b, t = Wrapping.wrap w b ∧ e = b.describe := by
  cases h with
  | base t =>
    obtain rfl := Except.ok.inj he
    exact ⟨.bare, t, rfl, rfl⟩
  | unit h => simp [isUnit, h] at hu
  | list h =>
    obtain ⟨rfl, hshape⟩ := elementType_array he
    obtain ⟨b, rfl, rfl⟩ := h.eq_base hshape
    exact ⟨.list, b, rfl, rfl⟩
  | option h =>
    obtain ⟨rfl, hshape⟩ := elementType_nullable he
    obtain ⟨b, rfl, rfl⟩ := h.eq_base hshape
    exact ⟨.option, b, rfl, rfl⟩

theorem accepts_items (h : native.Describes t) (hu : native.isUnit = false)
    (he : native.elementType = .ok e) (x : t.Value) :
    native.occurrence.accepts (t.items x).length = true := by
  cases h with
  | base t => exact t.accepts_item? x
  | unit h => simp [isUnit, h] at hu
  | list h => rfl
  | option h =>
    obtain ⟨rfl, hshape⟩ := elementType_nullable he
    obtain ⟨b, rfl, rfl⟩ := h.eq_base hshape
    cases x with
    | none => rfl
    | some y =>
      change decide ((b.item? y).toList.length ≤ 1) = true
      cases b.item? y <;> rfl

end NativeType.Describes

end XPathExtension
