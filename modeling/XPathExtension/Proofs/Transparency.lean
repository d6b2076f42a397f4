import XPathExtension.Proofs.Dispatch
import XPathExtension.Proofs.ResultTyping
import XPathExtension.Proofs.Widening

/-!
Transparent bindings. A function that returns its argument, bound without declared types, gives back
the sequence that it is called with: each item is received as the native value of the host value
that it stands for, is read as that value, and is delivered as the same item.
-/

namespace XPathExtension

variable {ns : Namespaces}

/-! ### Items of host types -/

/-- The items that stand for values of a host type: those of its item type, but for an enumeration
only the texts of its variants, and dates without a zone. -/
structure BaseType.Admits (t : BaseType) (i : Item) : Prop where
  item : t.shape.HasItem i
  variant : ∀ e, t = .enumeration e → ∃ s ∈ e.variants, i = .atomic (.text .string s)
  unzoned : t = .date → ∃ d, i = .atomic (.date d none)

namespace BaseType

variable {t : BaseType} {i : Item} {x : t.Value}

theorem exists_of_type_eq {a : AtomicType} (h : (ElementShape.atomic a).HasItem i) :
    ∃ v : AtomicValue, v.type = a ∧ i = .atomic v := by
  obtain ⟨hv⟩ := h
  exact ⟨_, hv, rfl⟩

/-- Each admitted item stands for a value. -/
theorem Admits.exists_item? (h : t.Admits i) : ∃ x, t.item? x = some i := by
  obtain ⟨hitem, hvariant, hunzoned⟩ := h
  cases t with
  | node =>
    obtain ⟨⟩ := hitem
    exact ⟨_, rfl⟩
  | item => exact ⟨i, rfl⟩
  | enumeration e =>
    obtain ⟨s, hs, rfl⟩ := hvariant e rfl
    exact ⟨⟨s, hs⟩, rfl⟩
  | date =>
    obtain ⟨d, rfl⟩ := hunzoned rfl
    exact ⟨d, rfl⟩
  | reference n =>
    obtain ⟨v, hv, rfl⟩ := exists_of_type_eq hitem
    cases v <;> cases hv
    exact ⟨some _, rfl⟩
  | _ =>
    obtain ⟨v, hv, rfl⟩ := exists_of_type_eq hitem
    cases v <;> cases hv
    exact ⟨_, rfl⟩

/-- An item is received as the value that it stands for. -/
theorem receiveItem_of_item? (h : t.item? x = some i) :
    Slot.receiveItem ⟨t.describe.itemTest, t.describe⟩ ns i = .ok (t.toNative x) := by
  cases t with
  | node =>
    obtain rfl := Option.some.inj h
    rfl
  | item =>
    obtain rfl := Option.some.inj h
    rfl
  | integer k =>
    obtain rfl := Option.some.inj h
    have hcast : Cast.toIntegral (.integral k.integral x) k.integral = .ok x :=
      Cast.toIntegral_eq_ok_iff.2 rfl
    change Except.mapError ConversionError.cast
      (NativeValue.ofIntegral k.integral <$> Cast.toIntegral _ k.integral) = _
    rw [Item.atomize, hcast]
    rfl
  | float =>
    obtain rfl := Option.some.inj h
    -- the number passes through the wider format
    change Except.ok (NativeValue.float ((x.convert .binary64).convert .binary32)) = _
    rw [Binary.convert_convert Binary.Format.within_binary64]
    rfl
  | reference n =>
    cases x with
    | none => cases h
    | some s =>
      obtain rfl := Option.some.inj h
      rfl
  | _ =>
    obtain rfl := Option.some.inj h
    rfl

/-- Host values are read back from their native values. -/
theorem fromNative_toNative (t : BaseType) (x : t.Value) : t.fromNative (t.toNative x) = .ok x := by
  cases t with
  | integer k => simp [toNative, fromNative, bind, Except.bind]
  | enumeration e => exact fromNative_variant x.property
  | reference n => cases x <;> rfl
  | _ => rfl

theorem toNative_ne_null (h : t.item? x = some i) : t.toNative x ≠ .null := by
  intro hnull
  have hleaves := t.leaves_toNative x
  simp [h, hnull, NativeValue.leaves] at hleaves

end BaseType

/-! ### Sequences of host types -/

namespace Wrapping

/-- The host value stands for the argument, in both directions. -/
structure Transports (t : HostType) (type : SequenceType) (arg : Sequence) (x : t.Value) :
    Prop where
  items : t.items x = arg
  receive : ∀ ns, Slot.receive ⟨type, t.describe⟩ arg ns = .ok (t.toNative x)
  fromNative : t.fromNative (t.toNative x) = .ok x

variable {t : BaseType} {w : Wrapping} {arg : Sequence}

theorem ofNative_describe_wrap (w : Wrapping) (t : BaseType) :
    SequenceType.ofNative (w.wrap t).describe t.describe =
      .typed ⟨t.describe.itemTest, t.describe⟩ (w.wrap t).describe.occurrence := by
  rw [SequenceType.ofNative, isUnit_describe_wrap]
  rfl

abbrev ownType (w : Wrapping) (t : BaseType) : SequenceType :=
  .typed ⟨t.describe.itemTest, t.describe⟩ (w.wrap t).describe.occurrence

theorem transports_list (h : ∀ i ∈ arg, t.Admits i) :
    ∃ x, Transports (wrap .list t) (ownType .list t) arg x := by
  obtain ⟨xs, hxs⟩ := Outcome.exists_forall₂ fun i hi => (h i hi).exists_item?
  have hitems : xs.flatMap (fun x => (t.item? x).toList) = arg := by
    induction hxs with
    | nil => rfl
    | cons hx _ ih => simp [hx, ih fun j hj => h j (by simp [hj])]
  have hreceive (ns : Namespaces) :
      arg.mapM (Slot.receiveItem ⟨t.describe.itemTest, t.describe⟩ ns) =
        .ok (xs.map t.toNative) := by
    rw [Outcome.mapM_eq_ok_iff, List.forall₂_map_right_iff]
    exact hxs.imp fun _ _ hx => BaseType.receiveItem_of_item? hx
  have hfrom : (xs.map t.toNative).mapM t.fromNative = .ok xs := by
    rw [Outcome.mapM_eq_ok_iff, List.forall₂_map_left_iff, List.forall₂_same]
    exact fun x _ => t.fromNative_toNative x
  refine ⟨xs, hitems, fun ns => ?_, hfrom⟩
  change NativeValue.sequence <$> arg.mapM _ = _
  rw [hreceive]
  rfl

theorem receive_singleton {item : ItemType} {o : Occurrence} (ho : o.allowsMany = false)
    (native : NativeType) (i : Item) :
    Slot.receive ⟨.typed item o, native⟩ [i] ns = Slot.receiveItem item ns i := by
  simp [Slot.receive, ho]

theorem transports_bare (hlength : (wrap .bare t).describe.occurrence.accepts arg.length = true)
    (h : ∀ i ∈ arg, t.Admits i) : ∃ x, Transports (wrap .bare t) (ownType .bare t) arg x := by
  have hsingle : (wrap .bare t).describe.occurrence.allowsMany = false := by
    cases t <;> rfl
  match arg with
  | [] =>
    -- no items stand for a value that may be absent by itself
    cases t with
    | reference n => exact ⟨none, rfl, fun _ => rfl, rfl⟩
    | _ => cases hlength
  | [i] =>
    obtain ⟨x, hx⟩ := (h i (by simp)).exists_item?
    refine ⟨x, ?_, fun ns => ?_, t.fromNative_toNative x⟩
    · simp [wrap, HostType.items, hx]
    · exact (receive_singleton hsingle _ i).trans (BaseType.receiveItem_of_item? hx)
  | i :: j :: is => cases t <;> simp [wrap, HostType.describe, BaseType.describe,
      NativeType.occurrence, BaseType.isValueType, Occurrence.accepts] at hlength

theorem transports_option (hlength : (wrap .option t).describe.occurrence.accepts arg.length = true)
    (h : ∀ i ∈ arg, t.Admits i) : ∃ x, Transports (wrap .option t) (ownType .option t) arg x := by
  match arg with
  | [] => exact ⟨none, rfl, fun _ => rfl, rfl⟩
  | [i] =>
    obtain ⟨x, hx⟩ := (h i (by simp)).exists_item?
    refine ⟨some x, ?_, fun ns => ?_, ?_⟩
    · simp [wrap, HostType.items, hx]
    · exact (receive_singleton rfl _ i).trans (BaseType.receiveItem_of_item? hx)
    · change (HostType.option (.base t)).fromNative (t.toNative x) = .ok (some x)
      rw [HostType.fromNative_option (BaseType.toNative_ne_null hx)]
      change some <$> t.fromNative _ = _
      rw [t.fromNative_toNative]
      rfl
  | i :: j :: is =>
    simp [wrap, HostType.describe, NativeType.occurrence, Occurrence.accepts] at hlength

/-- An argument of the type of the host has a host value. -/
theorem exists_transports (hlength : (w.ownType t).acceptsLength arg.length = true)
    (h : ∀ i ∈ arg, t.Admits i) : ∃ x, Transports (w.wrap t) (w.ownType t) arg x := by
  cases w with
  | bare => exact transports_bare hlength h
  | list => exact transports_list h
  | option => exact transports_option hlength h

theorem infer_none_eq_ok {bindings : Namespaces} {type : SequenceType} :
    SequenceType.infer (w.wrap t).describe none bindings = .ok type ↔ type = w.ownType t := by
  rw [SequenceType.infer_none_eq_ok_iff, elementType_describe_wrap]
  simp [ofNative_describe_wrap, eq_comm]

/-- The host value of an argument is delivered as the argument. -/
theorem Transports.deliver {x : (w.wrap t).Value} (h : Transports (w.wrap t) (w.ownType t) arg x)
    (ns : Namespaces) : Slot.deliver ⟨w.ownType t, (w.wrap t).describe⟩ ns ((w.wrap t).toNative x) =
      .ok arg := by
  have hnode (ht : t.shape = .node) : t.describe.itemTest.atomicType? = none := by
    simp [ElementType.itemTest, BaseType.describe, ht, ItemTest.atomicType?]
  rw [Slot.deliver_toNative rfl hnode, h.items]
  refine Outcome.mapM_eq_self fun i hi => ItemTest.deliverAs_itemTest ?_
  rw [← h.items] at hi
  exact HostType.hasItem_items hi

end Wrapping

/-! ### Identities -/

variable {M : Type}

/-- The function, or the method, that returns its argument. -/
def NativeFunction.identity (t : HostType) (isMethod : Bool) : NativeFunction M :=
  ⟨[t], t, isMethod, fun a s => (.ok a.1, s)⟩

theorem NativeFunction.call_identity {t : HostType} {x : t.Value} {v : NativeValue}
    (h : t.fromNative v = .ok x) (isMethod : Bool) (s : M) :
    (identity t isMethod).call [v] s = (.ok (t.toNative x), s) :=
  call_cons h rfl

/-- An overload that calls the identity gives an argument of its own type back. -/
theorem Overload.call_identity {w : Wrapping} {t : BaseType} {arg : Sequence}
    (hlength : (w.ownType t).acceptsLength arg.length = true) (h : ∀ i ∈ arg, t.Admits i)
    (arity : Nat) (isMethod : Bool) (name : ExpandedName) (s : M) :
    Overload.call ⟨arity, .identity (w.wrap t) isMethod, [⟨w.ownType t, (w.wrap t).describe⟩],
      ⟨w.ownType t, (w.wrap t).describe⟩⟩ name ns [arg] s = (.ok arg, s) := by
  obtain ⟨x, hx⟩ := Wrapping.exists_transports hlength h
  have hreceive : Overload.receiveAll ⟨arity, .identity (M := M) (w.wrap t) isMethod,
      [⟨w.ownType t, (w.wrap t).describe⟩], ⟨w.ownType t, (w.wrap t).describe⟩⟩ name ns [arg] =
        .ok [(w.wrap t).toNative x] := by
    simp [receiveAll, hx.receive, Except.mapError, pure, Except.pure]
  simp [call, hreceive, NativeFunction.call_identity hx.fromNative, hx.deliver, Except.mapError]

namespace ModuleDraft

variable {m : ModuleDraft M} {f : FunctionDraft M} {g : DescribedFunction M} {w : Wrapping}
  {t : BaseType} {isMethod : Bool}

theorem Describes.overload_identity (h : m.Describes f g)
    (hnative : f.native = .identity (w.wrap t) isMethod)
    (hparameter : f.overrides.parameter? 0 = none) (hresult : f.overrides.result = none) :
    Overload.ofBound g = ⟨1, .identity (w.wrap t) isMethod,
      [⟨w.ownType t, (w.wrap t).describe⟩], ⟨w.ownType t, (w.wrap t).describe⟩⟩ := by
  have hslot {s : Slot}
      (htype : SequenceType.infer (w.wrap t).describe none m.bindings = .ok s.type)
      (hs : s.native = (w.wrap t).describe) : s = ⟨w.ownType t, (w.wrap t).describe⟩ := by
    obtain ⟨type, native⟩ := s
    rw [Slot.mk.injEq]
    exact ⟨Wrapping.infer_none_eq_ok.1 htype, hs⟩
  have houtput : g.description.result = ⟨w.ownType t, (w.wrap t).describe⟩ := by
    obtain ⟨htype, hs, -⟩ := inferResult_eq_ok h.result
    rw [hnative, hresult] at htype
    rw [hnative] at hs
    exact hslot htype hs
  have hinputs : g.description.parameters.map (·.slot) =
      [⟨w.ownType t, (w.wrap t).describe⟩] := by
    have hparameters := h.parameters
    rw [hnative] at hparameters
    obtain ⟨p, -, hp, ⟨⟩, hps⟩ := List.forall₂_cons_left_iff.1 hparameters
    obtain ⟨-, htype, hs⟩ := inferParameter_eq_ok hp
    rw [hparameter] at htype
    rw [hps, List.map_singleton, hslot htype hs]
  have harity : g.description.arity = 1 := by
    rw [h.arity, hnative]
    rfl
  rw [Overload.ofBound, harity, h.native, hnative, hinputs, houtput]

/-- A bound identity is transparent. The module has a callable under its name, and each callable of
this name gives back every argument whose items are of the type of the host and as many as the
inferred type allows, under all namespaces. -/
theorem invoke_identity {b : Module M} (hb : m.build = .ok b) (hf : f ∈ m.functions)
    (hnative : f.native = .identity (w.wrap t) isMethod)
    (hparameter : f.overrides.parameter? 0 = none) (hresult : f.overrides.result = none) :
    (∃ c ∈ b.callables, c.identity = .inNamespace m.functionNamespace f.name) ∧
    ∃ type, SequenceType.infer (w.wrap t).describe none m.bindings = .ok type ∧
      ∀ c ∈ b.callables, c.identity = .inNamespace m.functionNamespace f.name →
        ∀ arg : Sequence, type.acceptsLength arg.length = true → (∀ i ∈ arg, t.Admits i) →
          ∀ (ns : Namespaces) (state : M), c.invoke ns [arg] state = (.ok arg, state) := by
  have hbuilds := builds_of_build hb
  obtain ⟨j, hj⟩ := List.mem_iff_getElem?.1 hf
  obtain ⟨c, g, hc, hg, hdescribe, hname⟩ := hbuilds.exists_callable hj
  have hdescribes := describes_of_describe hdescribe
  have hoverload := hdescribes.overload_identity hnative hparameter hresult
  refine ⟨⟨c, hc, hname.symm.trans hdescribes.name⟩, w.ownType t,
    Wrapping.infer_none_eq_ok.2 rfl, ?_⟩
  intro c' hc' hidentity arg hlength hadmits ns state
  have hselect : c'.overload? 1 = some (.ofBound g) := by
    refine (Module.overload?_eq_some_iff hbuilds.isGrouped hc').2
      ⟨g, List.mem_of_getElem? hg, hdescribes.name.trans hidentity.symm, ?_, rfl⟩
    rw [hdescribes.arity, hnative]
    rfl
  have hinvoke :
      c'.invoke ns [arg] state = (Overload.ofBound g).call c'.identity ns [arg] state := by
    simp [Callable.invoke, hselect]
  rw [hinvoke, hoverload]
  exact Overload.call_identity hlength hadmits _ _ _ state

/-- A module with the identity of lists of single-precision numbers. -/
def echo : ModuleDraft Unit where
  typeName := "Echo"
  initial := ()
  name := "echo"
  functions := [{ name := "numbers", native := .identity (.list (.base .float)) false }]

theorem invoke_identity_echo :
    ∃ b c, echo.build = .ok b ∧ c ∈ b.callables ∧
      c.invoke .empty [[.atomic (.float .nan), .atomic (.float (.ofInt .binary32 (-7)))]] () =
        (.ok [.atomic (.float .nan), .atomic (.float (.ofInt .binary32 (-7)))], ()) := by
  cases hb : echo.build with
  | error e =>
    have hbuild : echo.build.toOption.isSome = true := by decide +kernel
    rw [hb] at hbuild
    cases hbuild
  | ok b =>
    obtain ⟨⟨c, hc, hidentity⟩, type, htype, hinvoke⟩ := invoke_identity
      (w := .list) (t := .float) hb (List.mem_singleton.2 rfl) rfl rfl rfl
    have hadmits (x : Binary32) : BaseType.Admits .float (.atomic (.float x)) :=
      ⟨.atomic rfl, nofun, nofun⟩
    refine ⟨b, c, rfl, hc, hinvoke c hc hidentity _ ?_ ?_ _ _⟩
    · rw [Wrapping.infer_none_eq_ok.1 htype]
      rfl
    · intro i hi
      rcases List.mem_pair.1 hi with rfl | rfl <;> exact hadmits _

end ModuleDraft

end XPathExtension
