import XPathExtension.Proofs.Conformance
import XPathExtension.Proofs.Generating
import XPathExtension.Proofs.Refusal
import XPathExtension.Proofs.Transparency

/-!
Namespaces of calls. The bindings of a call are looked at only to read a text as a qualified name.
Where an overload does not ask for that, its calls give the same result or error and the same state
under all bindings. Declared types have been resolved under the bindings of the module, and calls
never look at their prefixes again.
-/

namespace XPathExtension

/-! ### Conversions -/

theorem Cast.toNative_eq_of_ne_qname {t : AtomicType} (h : t ≠ .qname) (v : AtomicValue)
    (ns ns' : Namespaces) : toNative v t ns = toNative v t ns' := by
  cases t with
  | qname => exact absurd rfl h
  | _ => rfl

theorem AtomicValue.cast_eq_of_ne_qname {t : AtomicType} (h : t ≠ .qname) (v : AtomicValue)
    (ns ns' : Namespaces) : v.cast t ns = v.cast t ns' := by
  rw [cast, cast, Cast.toNative_eq_of_ne_qname h v ns ns']

variable {ns ns' : Namespaces}

theorem ItemTest.atomicType?_eq_some_iff {test : ItemTest} {a : AtomicType} :
    test.atomicType? = some a ↔ test = .atomic a := by
  cases test <;> simp [atomicType?]

/-- Items are read as qualified names. -/
def ItemType.ReadsNames (t : ItemType) : Prop :=
  t.native.shape = .atomic .qname ∨ t.native.shape = .item ∧ t.test = .atomic .qname

theorem Slot.receiveItem_eq {t : ItemType} (h : ¬ t.ReadsNames) (i : Item) :
    receiveItem t ns i = receiveItem t ns' i := by
  obtain ⟨hnative, hitem⟩ := not_or.1 h
  unfold receiveItem
  cases hs : t.native.shape with
  | atomic a =>
    have ha : a ≠ .qname := fun ha => hnative (by rw [hs, ha])
    simp only [Cast.toNative_eq_of_ne_qname ha i.atomize ns ns']
  | item =>
    cases ht : t.test.atomicType? with
    | none => rfl
    | some a =>
      have ha : a ≠ .qname := by
        rintro rfl
        exact hitem ⟨hs, ItemTest.atomicType?_eq_some_iff.1 ht⟩
      simp only [AtomicValue.cast_eq_of_ne_qname ha i.atomize ns ns']
  | _ => rfl

theorem Slot.receive_eq {s : Slot} (h : ∀ t, s.type.item? = some t → ¬ t.ReadsNames)
    (arg : Sequence) : s.receive arg ns = s.receive arg ns' := by
  unfold receive
  cases htype : s.type with
  | empty => rfl
  | typed t o =>
    have ht : ¬ t.ReadsNames := h t (by rw [htype]; rfl)
    have hitems : receiveItem t ns = receiveItem t ns' := funext (receiveItem_eq ht)
    simp only [hitems]

/-- An item is cast to a name only if it is of another type. -/
theorem ItemTest.deliverAs_eq {test : ItemTest} {own : ElementShape}
    (h : test = .atomic .qname → own = .atomic .qname) (i : Item) :
    test.deliverAs own ns i = test.deliverAs own ns' i := by
  unfold deliverAs
  cases ht : test.atomicType? with
  | none => rfl
  | some a =>
    by_cases hown : own = .atomic a
    · simp only [hown, if_true]
    · have ha : a ≠ .qname := by
        rintro rfl
        exact hown (h (atomicType?_eq_some_iff.1 ht))
      simp only [AtomicValue.cast_eq_of_ne_qname ha i.atomize ns ns']

theorem Delivers.eq_of_namespaces {type : SequenceType} {native : NativeType} {is : List Item}
    {out out' : Except ConversionError Sequence}
    (hname : ∀ t, type.item? = some t → t.test = .atomic .qname → t.native.shape = .atomic .qname)
    (h : Delivers type native ns is out) (h' : Delivers type native ns' is out') : out = out' := by
  cases h with
  | nothing hunit =>
    cases h' with
    | nothing => rfl
    | items _ hu => exact absurd hunit (by simp [hu])
  | @items test e o _ htype hu =>
    cases h' with
    | nothing hunit => exact absurd hunit (by simp [hu])
    | @items test' e' o' _ htype' =>
      obtain ⟨⟨rfl, rfl⟩, rfl⟩ : (test = test' ∧ e = e') ∧ o = o' := by
        simpa using htype.symm.trans htype'
      have hitem : type.item? = some ⟨test, e⟩ := by rw [htype]; rfl
      have hitems : test.deliverAs e.shape ns = test.deliverAs e.shape ns' :=
        funext (ItemTest.deliverAs_eq (hname _ hitem))
      rw [hitems]

/-! ### Calls -/

section Calls

variable {M : Type} {o : Overload M} {name : ExpandedName} {args : List Sequence}

theorem Overload.receiveAll_eq
    (h : ∀ s ∈ o.inputs, ∀ t, s.type.item? = some t → ¬ t.ReadsNames) :
    o.receiveAll name ns args = o.receiveAll name ns' args := by
  have htransforms : o.transforms ns args = o.transforms ns' args :=
    List.map_congr_left fun p hp => Slot.receive_eq (h p.1 (List.of_mem_zip hp).1) p.2
  rw [receiveAll_eq_mapM, receiveAll_eq_mapM, htransforms]

theorem Overload.call_eq (h : ∀ s ∈ o.inputs, ∀ t, s.type.item? = some t → ¬ t.ReadsNames)
    (hresult : ∀ x, o.output.deliver ns (o.native.result.toNative x) =
      o.output.deliver ns' (o.native.result.toNative x)) (s : M) :
    o.call name ns args s = o.call name ns' args s := by
  unfold call
  have hreceive : o.receiveAll name ns args = o.receiveAll name ns' args := receiveAll_eq h
  rw [hreceive]
  cases o.receiveAll name ns' args with
  | error e => rfl
  | ok vs =>
    cases hcall : o.native.call vs s with
    | mk r s' =>
      cases r with
      | error e => simp only [hcall]
      | ok v =>
        obtain ⟨a, x, -, -, rfl⟩ := NativeFunction.call_eq_ok hcall
        simp only [hcall, hresult x]

end Calls

/-! ### Declarations -/

/-- The declaration, if there is one, is of qualified names. -/
def Declaration.DeclaresNames (bindings : Namespaces) (declared : Option String) : Prop :=
  ∃ text item o, declared = some text ∧ read? text = some (.typed item o) ∧
    item.resolve bindings text = .ok (.atomic .qname)

/-- The function does not ask for qualified names: no parameter is one, no item is declared as one,
and neither is the result. -/
structure FunctionDraft.AvoidsNames {M : Type} (f : FunctionDraft M) (bindings : Namespaces) :
    Prop where
  parameters : ∀ t ∈ f.native.parameters, t.describe.innermost.shape ≠ .atomic .qname
  items : ∀ (k : Nat) (t : HostType), f.native.parameters[k]? = some t →
    t.describe.innermost.shape = .item →
    ¬ Declaration.DeclaresNames bindings (f.overrides.parameter? k)
  result : ¬ Declaration.DeclaresNames bindings f.overrides.result

/-- The places of the overload have the types inferred for the function under the bindings. -/
structure Overload.TypedUnder {M : Type} (o : Overload M) (f : FunctionDraft M)
    (bindings : Namespaces) : Prop where
  inputs : List.Forall₂ (fun (t, k) s => s.native = t.describe ∧
      SequenceType.infer t.describe (f.overrides.parameter? k) bindings = .ok s.type)
    f.native.parameters.zipIdx o.inputs
  output : o.output.native = f.native.result.describe ∧
    SequenceType.infer f.native.result.describe f.overrides.result bindings = .ok o.output.type

namespace SequenceType

variable {native : NativeType} {declared : Option String} {bindings : Namespaces}
  {type : SequenceType} {t : ItemType}

/-- An inferred item test is that of the native type or the declared one. -/
theorem test_of_infer (h : infer native declared bindings = .ok type) (ht : type.item? = some t) :
    native.innermost = t.native ∧ (declared = none ∧ t.test = t.native.itemTest ∨
      ∃ text item o, declared = some text ∧ Declaration.read? text = some (.typed item o) ∧
        item.resolve bindings text = .ok t.test) := by
  cases declared with
  | none =>
    obtain ⟨e, he, rfl⟩ := infer_none_eq_ok_iff.1 h
    unfold ofNative at ht
    split at ht
    case isTrue => cases ht
    case isFalse =>
      obtain rfl := Option.some.inj ht
      exact ⟨NativeType.innermost_of_elementType he, .inl ⟨rfl, rfl⟩⟩
  | some text =>
    obtain ⟨e, he, d, hread, hd⟩ := infer_some_eq_ok_iff.1 h
    cases d with
    | empty =>
      obtain ⟨-, rfl⟩ := ofDeclaration_empty_eq_ok_iff.1 hd
      cases ht
    | typed item o =>
      obtain ⟨test, hresolve, -, rfl⟩ := ofDeclaration_typed_eq_ok_iff.1 hd
      obtain rfl := Option.some.inj ht
      exact ⟨NativeType.innermost_of_elementType he, .inr ⟨text, item, o, rfl, hread, hresolve⟩⟩

theorem shape_of_test_qname (h : infer native declared bindings = .ok type)
    (ht : type.item? = some t) (hdeclared : ¬ Declaration.DeclaresNames bindings declared)
    (hqname : t.test = .atomic .qname) : t.native.shape = .atomic .qname := by
  obtain ⟨-, ⟨-, htest⟩ | ⟨text, item, o, hsome, hread, hresolve⟩⟩ := test_of_infer h ht
  · rw [hqname, ElementType.itemTest] at htest
    split at htest
    case h_1 a ha =>
      obtain rfl := ItemTest.atomic.inj htest
      exact ha
    all_goals cases htest
  · exact absurd ⟨text, item, o, hsome, hread, hqname ▸ hresolve⟩ hdeclared

end SequenceType

namespace ModuleDraft

variable {M : Type} {m : ModuleDraft M} {f : FunctionDraft M} {g : DescribedFunction M}

theorem Describes.typedUnder (h : m.Describes f g) :
    (Overload.ofBound g).TypedUnder f m.bindings := by
  obtain ⟨hresult, hnative, -⟩ := inferResult_eq_ok h.result
  refine ⟨?_, hnative, hresult⟩
  refine List.forall₂_map_right_iff.2 (h.parameters.imp fun p q hq => ?_)
  obtain ⟨-, htype, hnative⟩ := inferParameter_eq_ok hq
  exact ⟨hnative, htype⟩

theorem not_readsNames_of_avoidsNames (h : m.Describes f g) (havoids : f.AvoidsNames m.bindings) :
    ∀ s ∈ (Overload.ofBound g).inputs, ∀ t, s.type.item? = some t → ¬ t.ReadsNames := by
  intro s hs t ht hreads
  obtain ⟨⟨host, k⟩, hk, -, hinfer⟩ := Outcome.exists_of_mem_right h.typedUnder.inputs hs
  have hhost : f.native.parameters[k]? = some host := List.mk_mem_zipIdx_iff_getElem?.1 hk
  have hbase := havoids.parameters host (List.mem_of_getElem? hhost)
  have hinnermost := (SequenceType.test_of_infer hinfer ht).1
  rw [hinnermost] at hbase
  rcases hreads with hname | ⟨hitem, hname⟩
  · exact hbase hname
  · have hundeclared := havoids.items k host hhost (by rw [hinnermost, hitem])
    exact hbase (SequenceType.shape_of_test_qname hinfer ht hundeclared hname)

theorem deliver_eq_of_avoidsNames (h : m.Describes f g) (havoids : f.AvoidsNames m.bindings)
    (x : f.native.result.Value) :
    g.description.result.deliver ns (f.native.result.toNative x) =
      g.description.result.deliver ns' (f.native.result.toNative x) := by
  obtain ⟨hinfer, -, -⟩ := inferResult_eq_ok h.result
  exact Delivers.eq_of_namespaces
    (fun t ht hname => SequenceType.shape_of_test_qname hinfer ht havoids.result hname)
    (h.delivers ns x) (h.delivers ns' x)

/-- Each overload of a built module is that of a function registered with the module, and has the types
that the bindings of the module give to its declarations. If the function does not ask for qualified
names, all bindings that the overload may be called with give the same result or error and the same
state. -/
theorem invoke_of_namespaces {b : Module M} (hbuild : m.build = .ok b) {cs : List (Callable M)}
    (hgenerate : b.generate = .ok cs) {c : Callable M} (hc : c ∈ cs) {n : Nat} {o : Overload M}
    (ho : c.overload? n = some o) :
    ∃ f g, m.Binds c.identity n f g ∧ o.TypedUnder f m.bindings ∧
      (f.AvoidsNames m.bindings → ∀ (ns ns' : Namespaces) (args : List Sequence) (s : M),
        args.length = n → c.invoke ns args s = c.invoke ns' args s) := by
  have hb := builds_of_build hbuild
  obtain rfl := Except.ok.inj (hgenerate.symm.trans (Module.generate_eq_ok hb.isGrouped))
  have hpresents := presents_of_mem hb hc
  obtain ⟨f, g, hbinds⟩ := (hpresents.found n).1 ⟨o, ho⟩
  obtain rfl := Option.some.inj (ho.symm.trans (hpresents.selected n f g hbinds).1)
  have hdescribes := describes_of_describe hbinds.described
  refine ⟨f, g, hbinds, hdescribes.typedUnder, ?_⟩
  rintro havoids ns ns' args s rfl
  rw [Callable.invoke_of_overload ho, Callable.invoke_of_overload ho]
  refine Overload.call_eq (not_readsNames_of_avoidsNames hdescribes havoids) ?_ s
  change ∀ x : g.native.result.Value, g.description.result.deliver ns (g.native.result.toNative x) =
    g.description.result.deliver ns' (g.native.result.toNative x)
  rw [hdescribes.native]
  exact fun x => deliver_eq_of_avoidsNames hdescribes havoids x

/-- A module with a function of elements, declared with a prefix that the module binds. -/
def marking : ModuleDraft Unit where
  typeName := "Marks"
  initial := ()
  name := "marks"
  bindings := Namespaces.builtin.bind "p" "urn:marks"
  functions := [{
    name := "mark"
    native := .ofFunction [.base .node] (.base .bool) fun _ => true
    overrides := { parameters := [(0, "element(p:mark)")] } }]

/-- An element of the declared name. -/
def marked : Item :=
  .node (.ofTree (.element ⟨none, "mark", some "urn:marks"⟩ [] []))

theorem avoidsNames_of_mem_marking : ∀ f ∈ marking.functions, f.AvoidsNames marking.bindings := by
  intro f hf
  obtain rfl := List.mem_singleton.1 hf
  constructor
  case parameters => decide
  case items =>
    intro k t ht hitem
    obtain rfl := List.mem_singleton.1 (List.mem_of_getElem? ht)
    cases hitem
  case result =>
    rintro ⟨text, item, o, hsome, -⟩
    cases hsome

theorem invoke_of_namespaces_marking : ∃ b c, marking.build = .ok b ∧ b.generate = .ok [c] ∧
    ∀ ns, (c.invoke ns [[marked]] ()).1.toOption.map List.length = some 1 := by
  have hfacts : marking.build.toOption.any (fun b => b.generate.toOption.any fun cs =>
      decide (cs.length = 1) && cs.all fun c => (c.overload? 1).isSome && decide
        ((c.invoke marking.bindings [[marked]] ()).1.toOption.map List.length = some 1)) =
      true := by
    decide +kernel
  obtain ⟨b, hbuild, hfacts⟩ := Outcome.any_toOption_iff.1 hfacts
  obtain ⟨cs, hgenerate, hfacts⟩ := Outcome.any_toOption_iff.1 hfacts
  obtain ⟨hone, hall⟩ := Bool.and_eq_true_iff.1 hfacts
  obtain ⟨c, rfl⟩ := List.length_eq_one_iff.1 (of_decide_eq_true hone)
  obtain ⟨hoverload, hlength⟩ :=
    Bool.and_eq_true_iff.1 (List.all_eq_true.1 hall c List.mem_cons_self)
  obtain ⟨o, ho⟩ := Option.isSome_iff_exists.1 hoverload
  obtain ⟨f, g, hbinds, -, hcalls⟩ :=
    invoke_of_namespaces hbuild hgenerate List.mem_cons_self ho
  have havoids := avoidsNames_of_mem_marking f hbinds.registered
  refine ⟨b, c, hbuild, hgenerate, fun ns => ?_⟩
  rw [hcalls havoids ns marking.bindings [[marked]] () rfl]
  exact of_decide_eq_true hlength

end ModuleDraft

end XPathExtension
