import XPathExtension.Proofs.Dispatch
import XPathExtension.Proofs.DocumentOrder
import XPathExtension.Proofs.ResultTyping

/-!
Results and their announced types. Results are not checked. Their number of items is never above
what is announced, and a sequence that a call gives conforms to the announced type exactly if the
native function gave an item where one has to be and only items that pass the node test.
-/

namespace XPathExtension

/-- A sequence has as many items as its type says, and only nodes that pass the node test, if there
is one. -/
structure SequenceType.Conforms (t : SequenceType) (seq : Sequence) : Prop where
  length : t.acceptsLength seq.length = true
  nodes : ∀ item, t.item? = some item → item.test.isNodeTest = true →
    ∀ i ∈ seq, ∃ n, i = .node n ∧ item.test.accepts n = true

/-- Where an element is declared, what was built passes by the first element in it. -/
def ItemTest.acceptsBuilt (test : ItemTest) (n : Node) : Bool :=
  if test.isElementTest then n.firstElement?.any fun e => test.accepts e else test.accepts n

/-! ### Elements in what was built -/

namespace ItemTest

variable {test : ItemTest} {own : ElementShape} {ns : Namespaces} {i j : Item}

/-- What is delivered under a node test passes it if and only if what was built does. -/
theorem accepts_of_deliverAs (ht : test.isNodeTest = true)
    (h : test.deliverAs own ns i = .ok j) :
    (∃ n, j = .node n ∧ test.accepts n = true) ↔
      ∃ n, i = .node n ∧ test.acceptsBuilt n = true := by
  simp only [deliverAs, atomicType?_of_isNodeTest ht] at h
  cases i with
  | atomic v =>
    obtain rfl := Except.ok.inj h
    simp
  | node n =>
    dsimp only at h
    unfold acceptsBuilt
    split at h
    case isTrue helement =>
      cases hn : n.firstElement? with
      | none => simp [hn] at h
      | some e =>
        obtain rfl : Item.node e = j := by simpa [hn] using h
        simp [helement, hn]
    case isFalse helement =>
      obtain rfl := Except.ok.inj h
      simp [helement]

theorem kind_of_deliverAs (ht : test.isElementTest = true) {n : Node}
    (h : test.deliverAs own ns i = .ok (.node n)) : n.kind = .element := by
  have hnode : test.isNodeTest = true := by
    cases test with
    | element => rfl
    | _ => cases ht
  simp only [deliverAs, atomicType?_of_isNodeTest hnode, ht, if_true] at h
  cases i with
  | atomic v => cases h
  | node m =>
    cases hm : m.firstElement? with
    | none => simp [hm] at h
    | some e =>
      obtain rfl : e = n := by simpa [hm] using h
      exact Node.kind_of_firstElement? hm

end ItemTest

/-! ### Numbers of items -/

namespace Occurrence

variable {o : Occurrence} {n : Nat}

theorem accepts_of_ne_zero (hn : n ≠ 0) (hmany : o.allowsMany = false → n ≤ 1) :
    o.accepts n = true := by
  cases o with
  | one =>
    have := hmany rfl
    have : n = 1 := by omega
    simp [accepts, this]
  | zeroOrOne => simpa [accepts] using hmany rfl
  | oneOrMore =>
    have : 1 ≤ n := by omega
    simpa [accepts] using this
  | zeroOrMore => rfl

end Occurrence

theorem NativeType.le_one_of_accepts {native : NativeType} {n : Nat} (ha : native.isArray = false)
    (h : native.occurrence.accepts n = true) : n ≤ 1 := by
  cases native with
  | single e =>
    cases hv : e.valueType with
    | true =>
      have : n = 1 := by simpa [occurrence, hv, Occurrence.accepts] using h
      omega
    | false => simpa [occurrence, hv, Occurrence.accepts] using h
  | array => cases ha
  | nullable => simpa [occurrence, Occurrence.accepts] using h

/-! ### Delivered results -/

namespace Delivers

variable {type : SequenceType} {native : NativeType} {declared : Option String}
  {bindings ns : Namespaces} {is : List Item} {seq : Sequence}

theorem length_eq (h : Delivers type native ns is (.ok seq)) : seq.length = is.length := by
  generalize hout : Except.ok seq = out at h
  cases h with
  | nothing =>
    obtain rfl := Except.ok.inj hout
    rfl
  | items => exact (Outcome.mapM_eq_ok_iff.1 hout.symm).length_eq.symm

end Delivers

namespace FunctionDescription

variable {d : FunctionDescription} {ns : Namespaces} {is : List Item} {seq : Sequence}

theorem announced_of_typed {item : ItemType} {o : Occurrence} (h : d.result.type = .typed item o) :
    d.announced = .typed item o := by
  unfold announced
  rw [h]

theorem conforms_nil_of_isUnit (hu : d.result.native.isUnit = true)
    (hc : d.result.native.Carries d.result.type) : d.announced.Conforms [] := by
  refine ⟨?_, by simp⟩
  generalize htype : d.result.type = type at hc
  cases hc with
  | empty =>
    unfold announced
    rw [htype]
    rfl
  | unit _ ho =>
    rw [announced_of_typed htype]
    simpa [SequenceType.acceptsLength] using ho
  | typed hu' => exact absurd hu (by simp [hu'])

variable (h : Delivers d.result.type d.result.native ns is (.ok seq))
include h

theorem acceptsLength_of_ne_nil (hne : is ≠ []) :
    d.announced.acceptsLength seq.length = true := by
  rw [h.length_eq]
  generalize Except.ok seq = out at h
  cases h with
  | nothing => exact absurd rfl hne
  | items htype hu he hfits hcount his =>
    rw [announced_of_typed htype]
    refine Occurrence.accepts_of_ne_zero (by simpa using hne) fun hmany => ?_
    exact NativeType.le_one_of_accepts (hfits.many ▸ hmany) hcount

/-- A result conforms to the announced type exactly if it is not empty where an item is needed, and
what was built passes the node test. -/
theorem conforms_iff :
    d.announced.Conforms seq ↔
      (is = [] → d.announced.acceptsLength 0 = true) ∧
        ∀ item, d.announced.item? = some item → item.test.isNodeTest = true →
          ∀ i ∈ is, ∃ n, i = .node n ∧ item.test.acceptsBuilt n = true := by
  have hlength : d.announced.acceptsLength seq.length = true ↔
      (is = [] → d.announced.acceptsLength 0 = true) := by
    rw [h.length_eq]
    by_cases hne : is = []
    · simp [hne]
    · have := acceptsLength_of_ne_nil h hne
      rw [h.length_eq] at this
      simp [hne, this]
  have hnodes (item : ItemType) (hitem : d.announced.item? = some item)
      (hnode : item.test.isNodeTest = true) :
      (∀ j ∈ seq, ∃ n, j = .node n ∧ item.test.accepts n = true) ↔
        ∀ i ∈ is, ∃ n, i = .node n ∧ item.test.acceptsBuilt n = true := by
    generalize hout : Except.ok seq = out at h
    cases h with
    | nothing =>
      obtain rfl := Except.ok.inj hout
      simp
    | items htype hu he hfits hcount his =>
      rw [announced_of_typed htype] at hitem
      obtain rfl := Option.some.inj hitem
      exact (Outcome.forall_mem_iff (Outcome.mapM_eq_ok_iff.1 hout.symm) fun i j hij =>
        (ItemTest.accepts_of_deliverAs hnode hij).symm).symm
  constructor
  · rintro ⟨hl, hn⟩
    exact ⟨hlength.1 hl, fun item hitem hnode => (hnodes item hitem hnode).1 (hn item hitem hnode)⟩
  · rintro ⟨hl, hn⟩
    exact ⟨hlength.2 hl, fun item hitem hnode => (hnodes item hitem hnode).2 (hn item hitem hnode)⟩

theorem conforms_of_undeclared {bindings : Namespaces}
    (hi : SequenceType.infer d.result.native none bindings = .ok d.result.type) :
    d.announced.Conforms seq := by
  rw [conforms_iff h]
  generalize hout : Except.ok seq = out at h
  cases h with
  | nothing hu =>
    have hnil := conforms_nil_of_isUnit hu (SequenceType.carries_of_infer hi)
    exact ⟨fun _ => hnil.length, by simp⟩
  | @items test e o _ htype hu he hfits hcount his =>
    obtain ⟨e', he', hnative⟩ := SequenceType.infer_none_eq_ok_iff.1 hi
    obtain rfl := Except.ok.inj (he'.symm.trans he)
    rw [SequenceType.ofNative, if_neg (by simp [hu])] at hnative
    cases hnative.trans htype
    rw [announced_of_typed htype]
    refine ⟨?_, ?_⟩
    · rintro rfl
      exact hcount
    · intro item hitem hnode i hi
      obtain rfl := Option.some.inj hitem
      have hshape : e'.shape = .node := by
        unfold ElementType.itemTest at hnode
        cases hs : e'.shape <;> simp [hs, ItemTest.isNodeTest] at hnode ⊢
      have hitem := his i hi
      rw [hshape] at hitem
      cases hitem with
      | node n =>
        refine ⟨n, rfl, ?_⟩
        simp [ItemTest.acceptsBuilt, ElementType.itemTest, hshape, ItemTest.isElementTest,
          ItemTest.accepts]

theorem kind_of_mem {item : ItemType} (hitem : d.announced.item? = some item)
    (ht : item.test.isElementTest = true) {n : Node} (hn : Item.node n ∈ seq) :
    n.kind = .element := by
  generalize hout : Except.ok seq = out at h
  cases h with
  | nothing =>
    obtain rfl := Except.ok.inj hout
    cases hn
  | items htype hu he hfits hcount his =>
    rw [announced_of_typed htype] at hitem
    obtain rfl := Option.some.inj hitem
    obtain ⟨i, -, hi⟩ := Outcome.exists_of_mem_right (Outcome.mapM_eq_ok_iff.1 hout.symm) hn
    exact ItemTest.kind_of_deliverAs ht hi

end FunctionDescription

/-! ### Calls of built modules -/

namespace ModuleDraft

variable {M : Type} {m : ModuleDraft M} {b : Module M} {f : FunctionDraft M}
  {g : DescribedFunction M}

theorem Describes.delivers (h : m.Describes f g) (ns : Namespaces) (x : f.native.result.Value) :
    Delivers g.description.result.type g.description.result.native ns (f.native.result.items x)
      (g.description.result.deliver ns (f.native.result.toNative x)) := by
  obtain ⟨hi, hnative, hempty⟩ := inferResult_eq_ok h.result
  generalize g.description.result = s at hi hnative hempty
  obtain ⟨type, native⟩ := s
  dsimp only at hnative hi hempty
  subst hnative
  exact Delivers.ofHost hi hempty f.native.result.describes x

/-- A call that gives a sequence has run the function of the module with the name of the callable
and as many parameters as there are arguments; what is known of the sequence and of the type that is
announced for it follows from the items of what the function returned. -/
theorem conformance_of_invoke (hb : m.build = .ok b) {c : Callable M} (hc : c ∈ b.callables)
    (ns : Namespaces) (args : List Sequence) (state state' : M) {seq : Sequence}
    (h : c.invoke ns args state = (.ok seq, state')) :
    ∃ f ∈ m.functions, ∃ a x t,
      c.identity = .inNamespace m.functionNamespace f.name ∧
      f.native.parameters.length = args.length ∧
      f.native.body a state = (.ok x, state') ∧
      c.resultType args.length = .ok t ∧
      seq.length = (f.native.result.items x).length ∧
      (seq ≠ [] → t.acceptsLength seq.length = true) ∧
      (t.Conforms seq ↔ (f.native.result.items x = [] → t.acceptsLength 0 = true) ∧
        ∀ item, t.item? = some item → item.test.isNodeTest = true →
          ∀ i ∈ f.native.result.items x, ∃ n, i = .node n ∧ item.test.acceptsBuilt n = true) ∧
      (∀ item, t.item? = some item → item.test.isElementTest = true →
        ∀ n, Item.node n ∈ seq → n.kind = .element) ∧
      (f.overrides.result = none → t.Conforms seq) := by
  have hbuilds := builds_of_build hb
  obtain ⟨o, ho, hcall⟩ := Callable.invoke_eq_ok h
  obtain ⟨g, hg, hname, harity, rfl⟩ :=
    (Module.overload?_eq_some_iff hbuilds.isGrouped hc).1 ho
  obtain ⟨f, hf, hdescribe⟩ := Outcome.exists_of_mem_right hbuilds.functions hg
  have hdescribes := describes_of_describe hdescribe
  obtain ⟨vs, v, -, hnative, hseq⟩ := Overload.call_eq_ok hcall
  obtain ⟨a, x, -, hbody, rfl⟩ : ∃ a x, HostType.readArguments f.native.parameters vs = .ok a ∧
      f.native.body a state = (.ok x, state') ∧ v = f.native.result.toNative x := by
    have hnative' : f.native.call vs state = (.ok v, state') := by
      rw [← hdescribes.native]
      exact hnative
    exact NativeFunction.call_eq_ok hnative'
  have hdelivers := hdescribes.delivers ns x
  change g.description.result.deliver ns _ = .ok seq at hseq
  rw [hseq] at hdelivers
  refine ⟨f, hf, a, x, g.description.announced, ?_, ?_, hbody, ?_, hdelivers.length_eq, ?_,
    FunctionDescription.conforms_iff hdelivers, ?_, ?_⟩
  · rw [← hname, hdescribes.name]
  · rw [← hdescribes.arity, harity]
  · exact (Module.resultType_eq_ok_iff hbuilds.isGrouped hc).2 ⟨g, hg, hname, harity, rfl⟩
  · intro hne
    refine FunctionDescription.acceptsLength_of_ne_nil hdelivers fun hnil => hne ?_
    rw [← List.length_eq_zero_iff, hdelivers.length_eq, hnil]
    rfl
  · intro item hitem ht n hn
    exact FunctionDescription.kind_of_mem hdelivers hitem ht hn
  · intro hnone
    obtain ⟨hi, hn, -⟩ := inferResult_eq_ok hdescribes.result
    rw [hnone, ← hn] at hi
    exact FunctionDescription.conforms_of_undeclared hdelivers hi

/-- A module with one function, which returns the integer that is absent. -/
def absence (declared : Option String) : ModuleDraft Unit where
  typeName := "Absence"
  initial := ()
  name := "absence"
  functions := [{
    name := "none"
    native := .ofFunction [] (.option (.base (.integer .i32))) fun _ => none
    overrides := { result := declared } }]

theorem invoke_absence (declared : Option String) {t : SequenceType}
    (hrun : ((absence declared).build.map fun b => b.callables.map fun c =>
      ((c.invoke .empty [] ()).1.toOption.map List.length, (c.resultType 0).toOption)) =
        .ok [(some 0, some t)]) :
    ∃ b c, (absence declared).build = .ok b ∧ c ∈ b.callables ∧
      c.invoke .empty [] () = (.ok [], ()) ∧ c.resultType 0 = .ok t := by
  cases hb : (absence declared).build with
  | error e =>
    rw [hb] at hrun
    cases hrun
  | ok b =>
    rw [hb] at hrun
    obtain ⟨c, hc, hrun⟩ := List.map_eq_singleton_iff.1 (Except.ok.inj hrun)
    obtain ⟨hseq, ht⟩ := Prod.mk.inj hrun
    refine ⟨b, c, rfl, by simp [hc], ?_, ?_⟩
    · cases hinvoke : c.invoke .empty [] () with
      | mk r s =>
        cases r with
        | error e => simp [hinvoke, Except.toOption] at hseq
        | ok seq =>
          obtain rfl : seq = [] := by simpa [hinvoke, Except.toOption] using hseq
          rfl
    · cases hr : c.resultType 0 with
      | error e => simp [hr, Except.toOption] at ht
      | ok t' =>
        obtain rfl : t' = t := by simpa [hr, Except.toOption] using ht
        rfl

theorem conformance_of_invoke_absence :
    ∃ b c t, (absence none).build = .ok b ∧ c ∈ b.callables ∧
      c.invoke .empty [] () = (.ok [], ()) ∧ c.resultType 0 = .ok t ∧ t.Conforms [] := by
  obtain ⟨b, c, hb, hc, hinvoke, -⟩ := invoke_absence none
    (t := .typed ⟨.atomic (.integral .int), BaseType.describe (.integer .i32)⟩ .zeroOrOne)
    (by decide +kernel)
  obtain ⟨f, hf, -, -, t, -, -, -, ht, -, -, -, -, hconforms⟩ :=
    conformance_of_invoke hb hc .empty [] () () hinvoke
  obtain rfl : f = _ := List.mem_singleton.1 hf
  exact ⟨b, c, t, hb, hc, hinvoke, ht, hconforms rfl⟩

/-- Where exactly one integer is announced, an absent integer does not conform. -/
theorem not_conforms_absence :
    ∃ b c t, (absence (some "xs:int")).build = .ok b ∧ c ∈ b.callables ∧
      c.invoke .empty [] () = (.ok [], ()) ∧ c.resultType 0 = .ok t ∧ ¬ t.Conforms [] := by
  obtain ⟨b, c, hb, hc, hinvoke, ht⟩ := invoke_absence (some "xs:int")
    (t := .typed ⟨.atomic (.integral .int), BaseType.describe (.integer .i32)⟩ .one)
    (by decide +kernel)
  refine ⟨b, c, _, hb, hc, hinvoke, ht, fun h => ?_⟩
  exact Bool.noConfusion h.length

end ModuleDraft

end XPathExtension
