import XPathExtension.Proofs.Receiving

/-!
Arguments of parameters for nodes and for items. Such an argument is received exactly if its length
is accepted and its items conform to the declared type: to a node test those nodes that pass it, for
both kinds of parameters the same, to an atomic type the items whose values can be cast to it. What
is delivered are the nodes or items of the argument, or the values that they are cast to, all of
them and in order.
-/

namespace XPathExtension

/-- The item conforms to the test as an argument of a parameter for nodes or for items. -/
def BaseType.Conforms (t : BaseType) (ns : Namespaces) : ItemTest → Item → Prop
  | .atomic a, i => ∃ v, i.atomize.cast a ns = .ok v
  | .anyItem, i => t = .node → ∃ n, i = .node n
  | test, i => ∃ n, i = .node n ∧ test.accepts n = true

/-- What a conforming item is delivered as: a node or an item as it is, and an item that is cast as
the value that the cast gives. -/
inductive BaseType.DeliveredAs (ns : Namespaces) : BaseType → ItemTest → Item → NativeValue → Prop
  | node {test : ItemTest} (ht : test.atomicType? = none) (n : Node) :
      DeliveredAs ns .node test (.node n) (.node n)
  | item {test : ItemTest} (ht : test.atomicType? = none) (i : Item) :
      DeliveredAs ns .item test i (.item i)
  | cast {a : AtomicType} {i : Item} {v : AtomicValue} (h : i.atomize.cast a ns = .ok v) :
      DeliveredAs ns .item (.atomic a) i (.item (.atomic v))

namespace BaseType

variable {t : BaseType} {test : ItemTest} {ns : Namespaces} {i : Item}

theorem conforms_iff_of_isNodeTest (h : test.isNodeTest = true) :
    t.Conforms ns test i ↔ ∃ n, i = .node n ∧ test.accepts n = true := by
  cases test with
  | anyItem | atomic a => cases h
  | _ => rfl

/-- For a parameter for nodes the test of all items is one of all nodes. -/
theorem conforms_node_iff (h : test.atomicType? = none) :
    Conforms .node ns test i ↔ ∃ n, i = .node n ∧ test.accepts n = true := by
  cases test with
  | atomic a => cases h
  | anyItem => simp [Conforms, ItemTest.accepts]
  | _ => rfl

theorem exists_deliveredAs (ht : t = .node ∨ t = .item)
    (hfits : t = .node → test.atomicType? = none) (h : t.Conforms ns test i) :
    ∃ u, DeliveredAs ns t test i u := by
  rcases ht with rfl | rfl
  · obtain ⟨n, rfl, -⟩ := (conforms_node_iff (hfits rfl)).1 h
    exact ⟨_, .node (hfits rfl) n⟩
  · cases test with
    | atomic a =>
      obtain ⟨v, hv⟩ := h
      exact ⟨_, .cast hv⟩
    | _ => exact ⟨_, .item rfl i⟩

end BaseType

namespace Slot

variable {test : ItemTest} {ns : Namespaces} {i : Item} {u : NativeValue} {e : ConversionError}

theorem requireNode_eq_ok_iff {t : ItemType} {n : Node} :
    requireNode t i = .ok n ↔ i = .node n ∧ t.test.accepts n = true := by
  cases i with
  | atomic a => simp [requireNode]
  | node m =>
    constructor
    · intro h
      simp only [requireNode] at h
      split at h
      case isTrue haccepts =>
        obtain rfl := Except.ok.inj h
        exact ⟨rfl, haccepts⟩
      case isFalse => cases h
    · rintro ⟨h, haccepts⟩
      obtain rfl := Item.node.inj h
      exact if_pos haccepts

theorem code_of_requireNode {t : ItemType} (h : requireNode t i = .error e) :
    e.code = .xpty0004 := by
  unfold requireNode at h
  split at h
  case h_1 =>
    split at h
    case isTrue => cases h
    case isFalse =>
      obtain rfl := Except.error.inj h
      rfl
  case h_2 =>
    obtain rfl := Except.error.inj h
    rfl

/-! ### One item -/

theorem receiveItem_node_eq_ok_iff (h : test.atomicType? = none) :
    receiveItem ⟨test, BaseType.node.describe⟩ ns i = .ok u ↔
      BaseType.node.Conforms ns test i ∧ BaseType.DeliveredAs ns .node test i u := by
  change NativeValue.node <$> requireNode _ i = .ok u ↔ _
  rw [Outcome.map_eq_ok_iff, BaseType.conforms_node_iff h]
  constructor
  · rintro ⟨n, hn, rfl⟩
    obtain ⟨rfl, haccepts⟩ := requireNode_eq_ok_iff.1 hn
    exact ⟨⟨n, rfl, haccepts⟩, .node h n⟩
  · rintro ⟨⟨n, rfl, haccepts⟩, hu⟩
    cases hu
    exact ⟨n, requireNode_eq_ok_iff.2 ⟨rfl, haccepts⟩, rfl⟩

theorem receiveItem_of_isNodeTest (h : test.isNodeTest = true) :
    receiveItem ⟨test, BaseType.item.describe⟩ ns i =
      (fun n => .item (.node n)) <$> requireNode ⟨test, BaseType.item.describe⟩ i := by
  simp [receiveItem, BaseType.describe, BaseType.shape, ItemTest.atomicType?_of_isNodeTest h, h]

theorem receiveItem_item_eq_ok_iff :
    receiveItem ⟨test, BaseType.item.describe⟩ ns i = .ok u ↔
      BaseType.item.Conforms ns test i ∧ BaseType.DeliveredAs ns .item test i u := by
  by_cases hnode : test.isNodeTest = true
  · rw [receiveItem_of_isNodeTest hnode, Outcome.map_eq_ok_iff,
      BaseType.conforms_iff_of_isNodeTest hnode]
    constructor
    · rintro ⟨n, hn, rfl⟩
      obtain ⟨rfl, haccepts⟩ := requireNode_eq_ok_iff.1 hn
      exact ⟨⟨n, rfl, haccepts⟩, .item (ItemTest.atomicType?_of_isNodeTest hnode) _⟩
    · rintro ⟨⟨n, rfl, haccepts⟩, hu⟩
      cases hu with
      | item => exact ⟨n, requireNode_eq_ok_iff.2 ⟨rfl, haccepts⟩, rfl⟩
      | cast => cases hnode
  · cases test with
    | anyItem =>
      constructor
      · intro h
        obtain rfl := Except.ok.inj h
        exact ⟨nofun, .item rfl i⟩
      · rintro ⟨-, hu⟩
        cases hu
        rfl
    | atomic a =>
      change (fun v => NativeValue.item (.atomic v)) <$> i.atomize.cast a ns = .ok u ↔ _
      rw [Outcome.map_eq_ok_iff]
      constructor
      · rintro ⟨v, hv, rfl⟩
        exact ⟨⟨v, hv⟩, .cast hv⟩
      · rintro ⟨-, hu⟩
        cases hu with
        | item ht => cases ht
        | cast hv => exact ⟨_, hv, rfl⟩
    | _ => exact absurd rfl hnode

section

variable {t : BaseType} (ht : t = .node ∨ t = .item)
include ht

theorem receiveItem_eq_ok_iff (hfits : t = .node → test.atomicType? = none) :
    receiveItem ⟨test, t.describe⟩ ns i = .ok u ↔
      t.Conforms ns test i ∧ BaseType.DeliveredAs ns t test i u := by
  rcases ht with rfl | rfl
  · exact receiveItem_node_eq_ok_iff (hfits rfl)
  · exact receiveItem_item_eq_ok_iff

/-- An item is refused with a type error, unless it is cast. -/
theorem fault_of_receiveItem (h : receiveItem ⟨test, t.describe⟩ ns i = .error e) :
    e.code = .xpty0004 ∨
      ∃ a c, test = .atomic a ∧ Cast.toNative i.atomize a ns = .error c ∧ e = .cast c := by
  rcases ht with rfl | rfl
  · exact .inl (code_of_requireNode (Outcome.map_eq_error_iff.1 h))
  · by_cases hnode : test.isNodeTest = true
    · rw [receiveItem_of_isNodeTest hnode] at h
      exact .inl (code_of_requireNode (Outcome.map_eq_error_iff.1 h))
    · cases test with
      | anyItem => cases h
      | atomic a =>
        obtain ⟨c, hc, rfl⟩ := AtomicValue.cast_eq_error_iff.1 (Outcome.map_eq_error_iff.1 h)
        exact .inr ⟨a, c, rfl, hc, rfl⟩
      | _ => exact absurd rfl hnode

end

end Slot

/-! ### Whole arguments -/

/-- Types that are inferred from one declaration allow the same lengths and make the same test. -/
theorem SequenceType.infer_some_agree {native native' : NativeType} {text : String}
    {bindings : Namespaces} {type type' : SequenceType}
    (h : infer native (some text) bindings = .ok type)
    (h' : infer native' (some text) bindings = .ok type') :
    type.acceptsLength = type'.acceptsLength ∧
      type.item?.map (·.test) = type'.item?.map (·.test) := by
  obtain ⟨e, -, d, hread, hd⟩ := infer_some_eq_ok_iff.1 h
  obtain ⟨e', -, d', hread', hd'⟩ := infer_some_eq_ok_iff.1 h'
  obtain rfl := Option.some.inj (hread.symm.trans hread')
  cases d with
  | empty =>
    obtain ⟨-, rfl⟩ := ofDeclaration_empty_eq_ok_iff.1 hd
    obtain ⟨-, rfl⟩ := ofDeclaration_empty_eq_ok_iff.1 hd'
    exact ⟨rfl, rfl⟩
  | typed item o =>
    obtain ⟨test, hresolve, -, rfl⟩ := ofDeclaration_typed_eq_ok_iff.1 hd
    obtain ⟨test', hresolve', -, rfl⟩ := ofDeclaration_typed_eq_ok_iff.1 hd'
    obtain rfl := Except.ok.inj (hresolve.symm.trans hresolve')
    exact ⟨rfl, rfl⟩

namespace Wrapping

variable {w : Wrapping} {t : BaseType} {type : SequenceType} {arg : Sequence} {ns : Namespaces}

/-- The item type of a carried type is that of the base type, and no atomic one for nodes. -/
theorem item?_of_carries (hc : (w.wrap t).describe.Carries type) {it : ItemType}
    (h : type.item? = some it) :
    it = ⟨it.test, t.describe⟩ ∧ (t = .node → it.test.atomicType? = none) := by
  cases hc with
  | empty => cases h
  | unit hunit => cases hunit.symm.trans isUnit_describe_wrap
  | @typed e test o _ he hfits =>
    obtain rfl := Option.some.inj h
    obtain rfl := Except.ok.inj (he.symm.trans (elementType_describe_wrap w t))
    refine ⟨rfl, ?_⟩
    rintro rfl
    exact hfits.node rfl

section

variable (ht : t = .node ∨ t = .item) (hc : (w.wrap t).describe.Carries type)
include ht hc

theorem receiveItem_of_carries {it : ItemType} (hit : type.item? = some it) {i : Item}
    {u : NativeValue} : Slot.receiveItem it ns i = .ok u ↔
      t.Conforms ns it.test i ∧ BaseType.DeliveredAs ns t it.test i u := by
  obtain ⟨heq, hfits⟩ := item?_of_carries hc hit
  rw [heq]
  exact Slot.receiveItem_eq_ok_iff ht hfits

theorem exists_receive_iff_conforms :
    (∃ v, Slot.receive ⟨type, (w.wrap t).describe⟩ arg ns = .ok v) ↔
      type.acceptsLength arg.length = true ∧
        ∀ i ∈ arg, ∃ it, type.item? = some it ∧ t.Conforms ns it.test i := by
  rw [Slot.exists_receive_iff isUnit_describe_wrap hc]
  refine and_congr_right fun _ => forall₂_congr fun i _ => ?_
  rw [exists_comm]
  refine exists_congr fun it => ?_
  rw [exists_and_left]
  refine and_congr_right fun hit => ?_
  simp only [receiveItem_of_carries ht hc hit, exists_and_left, and_iff_left_iff_imp]
  exact BaseType.exists_deliveredAs ht (item?_of_carries hc hit).2

theorem delivered_of_receive {v : NativeValue}
    (h : Slot.receive ⟨type, (w.wrap t).describe⟩ arg ns = .ok v) :
    ∃ vs, List.Forall₂ (fun i u => ∃ it, type.item? = some it ∧
      BaseType.DeliveredAs ns t it.test i u) arg vs ∧ (w.wrap t).describe.gather vs = some v := by
  obtain ⟨-, vs, hvs, hv⟩ := (Slot.receive_eq_ok_iff isUnit_describe_wrap hc).1 h
  refine ⟨vs, hvs.imp fun i u hu => ?_, hv⟩
  obtain ⟨it, hit, hu⟩ := hu
  exact ⟨it, hit, ((receiveItem_of_carries ht hc hit).1 hu).2⟩

theorem kind_of_receive {e : ConversionError}
    (h : Slot.receive ⟨type, (w.wrap t).describe⟩ arg ns = .error e) :
    e.toError.kind = .xpty0004 ∨ ∃ it a c, type.item? = some it ∧ it.test = .atomic a ∧
      ∃ i ∈ arg, Cast.toNative i.atomize a ns = .error c ∧ e = .cast c := by
  rcases Slot.fault_of_receive h with hcode | ⟨it, hit, i, hi, h⟩
  · exact .inl (by rw [ConversionError.toError, Error.ofCode_kind, hcode])
  · rw [(item?_of_carries hc hit).1] at h
    rcases Slot.fault_of_receiveItem ht h with hcode | ⟨a, c, htest, hcast, rfl⟩
    · exact .inl (by rw [ConversionError.toError, Error.ofCode_kind, hcode])
    · exact .inr ⟨it, a, c, hit, htest, i, hi, hcast, rfl⟩

end

/-- An argument of a parameter for nodes or items, bare or in a list or an option, whose type is
inferred from any declaration or none. It is received exactly if its length is accepted and each
item conforms, and what is delivered are its own nodes or items, or the values that they are cast
to. A refusal is a type error or the fault of a cast. If a node test is declared, a parameter for
nodes and one for items receive the same arguments. -/
theorem receive_of_node_or_item (w : Wrapping) {t : BaseType} (ht : t = .node ∨ t = .item)
    (declared : Option String) (bindings : Namespaces) {type : SequenceType}
    (hi : SequenceType.infer (w.wrap t).describe declared bindings = .ok type) (arg : Sequence)
    (ns : Namespaces) :
    ((∃ v, Slot.receive ⟨type, (w.wrap t).describe⟩ arg ns = .ok v) ↔
      type.acceptsLength arg.length = true ∧
        ∀ i ∈ arg, ∃ it, type.item? = some it ∧ t.Conforms ns it.test i) ∧
    (∀ v, Slot.receive ⟨type, (w.wrap t).describe⟩ arg ns = .ok v →
      ∃ vs, List.Forall₂ (fun i u => ∃ it, type.item? = some it ∧
          BaseType.DeliveredAs ns t it.test i u) arg vs ∧
        (w.wrap t).describe.gather vs = some v) ∧
    (∀ e, Slot.receive ⟨type, (w.wrap t).describe⟩ arg ns = .error e →
      e.toError.kind = .xpty0004 ∨ ∃ it a c, type.item? = some it ∧ it.test = .atomic a ∧
        ∃ i ∈ arg, Cast.toNative i.atomize a ns = .error c ∧ e = .cast c) ∧
    ∀ u type', declared.isSome = true → (u = .node ∨ u = .item) →
      SequenceType.infer (w.wrap u).describe declared bindings = .ok type' →
      (∀ it, type.item? = some it → it.test.isNodeTest = true) →
      ((∃ v, Slot.receive ⟨type', (w.wrap u).describe⟩ arg ns = .ok v) ↔
        ∃ v, Slot.receive ⟨type, (w.wrap t).describe⟩ arg ns = .ok v) := by
  have hc := SequenceType.carries_of_infer hi
  refine ⟨exists_receive_iff_conforms ht hc, fun v => delivered_of_receive ht hc,
    fun e => kind_of_receive ht hc, ?_⟩
  intro u type' hdeclared hu hi' htest
  obtain ⟨text, rfl⟩ := Option.isSome_iff_exists.1 hdeclared
  have hc' := SequenceType.carries_of_infer hi'
  obtain ⟨hlength, htests⟩ := SequenceType.infer_some_agree hi' hi
  rw [exists_receive_iff_conforms hu hc', exists_receive_iff_conforms ht hc, hlength]
  refine and_congr_right fun _ => forall₂_congr fun i _ => ?_
  cases htype : type.item? with
  | none =>
    rw [htype] at htests
    simp [Option.map_eq_none_iff.1 htests]
  | some it =>
    rw [htype] at htests
    obtain ⟨it', hit', heq⟩ := Option.map_eq_some_iff.1 htests
    have hnode := htest it htype
    simp only [hit', Option.some.injEq, exists_eq_left', heq]
    rw [BaseType.conforms_iff_of_isNodeTest hnode, BaseType.conforms_iff_of_isNodeTest hnode]

/-- A document whose only element stands behind a comment. -/
def commentedDocument : Node :=
  .ofTree (.document [.leaf .comment none "draft", .element ⟨none, "a", none⟩ [] []])

theorem receive_of_node_or_item_document :
    ∃ type, SequenceType.infer (wrap .option .node).describe (some "document-node(element(a))?")
        .builtin = .ok type ∧
      ∃ v, Slot.receive ⟨type, (wrap .option .node).describe⟩ [.node commentedDocument] .empty =
        .ok v := by
  have hi : SequenceType.infer (wrap .option .node).describe (some "document-node(element(a))?")
      .builtin = .ok (.typed ⟨.document (some (.test (some ⟨none, "a"⟩) none false)),
        BaseType.node.describe⟩ .zeroOrOne) := by
    decide +kernel
  have hconforms := (receive_of_node_or_item .option (.inl rfl) _ _ hi
    [.node commentedDocument] .empty).1
  refine ⟨_, hi, hconforms.2 ⟨rfl, fun i hmem => ⟨_, rfl, ?_⟩⟩⟩
  obtain rfl := List.mem_singleton.1 hmem
  exact ⟨commentedDocument, rfl, by rfl⟩

end Wrapping

end XPathExtension
