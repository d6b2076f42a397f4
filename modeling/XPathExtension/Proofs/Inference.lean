import XPathExtension.Proofs.Outcome
import XPathExtension.SequenceType.Inference

/-!
What inference grants. A sequence type that inference gives, declared or not, fits the native type:
it is empty only where something stands for no items, and otherwise its item test and its occurrence
are such that the native type can carry all that they allow.
-/

namespace XPathExtension

theorem ItemTest.atomicType?_of_isNodeTest {test : ItemTest} (h : test.isNodeTest = true) :
    test.atomicType? = none := by
  cases test with
  | atomic => cases h
  | _ => rfl

namespace NativeType

/-- The conditions on the item test and the occurrence of a type that is not a unit. -/
structure Fits (native : NativeType) (e : ElementType) (test : ItemTest) (o : Occurrence) :
    Prop where
  atomic : e.atomicType?.isSome = true → test.isNodeTest = false
  node : e.shape = .node → test.atomicType? = none
  many : o.allowsMany = native.isArray
  optional : o = .zeroOrOne → native.hasDefault = true

/-- The sequence types that a native type can carry. -/
inductive Carries (native : NativeType) : SequenceType → Prop
  | empty (h : native.isUnit = true ∨ native.hasDefault = true) : Carries native .empty
  | unit {item : ItemType} {o : Occurrence} (hu : native.isUnit = true)
      (ho : o.allowsEmpty = true) : Carries native (.typed item o)
  | typed {e : ElementType} {test : ItemTest} {o : Occurrence} (hu : native.isUnit = false)
      (he : native.elementType = .ok e) (h : native.Fits e test o) :
      Carries native (.typed ⟨test, e⟩ o)

variable {native : NativeType} {e : ElementType} {test : ItemTest} {o : Occurrence}

theorem fits_of_misfit? (hu : native.isUnit = false)
    (h : native.misfit? e test o = none) : native.Fits e test o := by
  rw [misfit?, if_neg (by simp [hu])] at h
  split_ifs at h with hatomic hnode hmany hone hoptional
  refine ⟨fun ha => ?_, fun hn => ?_, ?_, fun ho => ?_⟩
  · simpa [ha] using hatomic
  · simpa [hn] using hnode
  · revert hmany hone
    cases o.allowsMany <;> cases native.isArray <;> simp
  · simpa [ho] using hoptional

theorem misfit?_of_fits (hu : native.isUnit = false) (h : native.Fits e test o) :
    native.misfit? e test o = none := by
  obtain ⟨hatomic, hnode, hmany, hoptional⟩ := h
  have hnot {b c : Bool} (h : b = true → c = false) : ¬ (b && c) = true := by
    cases b <;> simp_all
  have hnode : ¬ (e.shape == .node && test.atomicType?.isSome) = true :=
    hnot fun hn => by simp [hnode (by simpa using hn)]
  have hoptional : ¬ (o == .zeroOrOne && !native.hasDefault) = true :=
    hnot fun ho => by simp [hoptional (by simpa using ho)]
  rw [misfit?, if_neg (by simp [hu]), if_neg (hnot hatomic), if_neg hnode, hmany,
    if_neg (by simp), if_neg (by simp), if_neg hoptional]

theorem fits_itemTest (hu : native.isUnit = false) (he : native.elementType = .ok e) :
    native.Fits e e.itemTest native.occurrence := by
  refine ⟨fun ha => ?_, fun hn => ?_, ?_, fun ho => ?_⟩
  · unfold ElementType.atomicType? at ha
    unfold ElementType.itemTest
    cases hs : e.shape <;> simp [hs, ItemTest.isNodeTest] at ha ⊢
  · simp [ElementType.itemTest, hn, ItemTest.atomicType?]
  · cases native with
    | single t => cases hv : t.valueType <;> simp [occurrence, hv, isArray, Occurrence.allowsMany]
    | array => rfl
    | nullable => rfl
  · cases native with
    | single t =>
      have hv : t.valueType = false := by
        cases hv : t.valueType <;> simp [occurrence, hv] at ho ⊢
      simp [hasDefault, default?, hv]
    | array => simp [occurrence] at ho
    | nullable => rfl

end NativeType

namespace SequenceType

variable {native : NativeType} {ns : Namespaces} {t : SequenceType}

theorem carries_ofNative {e : ElementType} (he : native.elementType = .ok e) :
    native.Carries (ofNative native e) := by
  unfold ofNative
  split
  case isTrue hu => exact .empty (.inl hu)
  case isFalse hu =>
    have hu : native.isUnit = false := by simpa using hu
    exact .typed hu he (NativeType.fits_itemTest hu he)

theorem ofDeclaration_typed_eq_ok_iff {e : ElementType} {text : String}
    {item : Declaration.ItemTest} {o : Occurrence} :
    ofDeclaration native e ns text (.typed item o) = .ok t ↔
      ∃ test, item.resolve ns text = .ok test ∧ native.misfit? e test o = none ∧
        t = .typed ⟨test, e⟩ o := by
  simp only [ofDeclaration, Outcome.bind_eq_ok_iff]
  refine exists_congr fun test => and_congr_right fun _ => ?_
  cases native.misfit? e test o <;> simp [eq_comm]

theorem ofDeclaration_empty_eq_ok_iff {e : ElementType} {text : String} :
    ofDeclaration native e ns text .empty = .ok t ↔
      (native.isUnit = true ∨ native.hasDefault = true) ∧ t = .empty := by
  simp only [ofDeclaration, Bool.or_eq_true]
  split
  case isTrue h =>
    simp only [h, true_and, Except.ok.injEq]
    exact eq_comm
  case isFalse h => simp [h]

theorem carries_ofDeclaration {e : ElementType} (he : native.elementType = .ok e) {text : String}
    {d : Declaration} (h : ofDeclaration native e ns text d = .ok t) : native.Carries t := by
  cases d with
  | empty =>
    obtain ⟨hd, rfl⟩ := ofDeclaration_empty_eq_ok_iff.1 h
    exact .empty hd
  | typed item o =>
    obtain ⟨test, -, hm, rfl⟩ := ofDeclaration_typed_eq_ok_iff.1 h
    cases hu : native.isUnit with
    | true =>
      refine .unit hu ?_
      simpa [NativeType.misfit?, hu] using hm
    | false => exact .typed hu he (NativeType.fits_of_misfit? hu hm)

theorem infer_none_eq_ok_iff :
    infer native none ns = .ok t ↔ ∃ e, native.elementType = .ok e ∧ ofNative native e = t := by
  simp [infer]

theorem infer_some_eq_ok_iff {text : String} :
    infer native (some text) ns = .ok t ↔ ∃ e, native.elementType = .ok e ∧
      ∃ d, Declaration.read? text = some d ∧ ofDeclaration native e ns text d = .ok t := by
  simp only [infer, Outcome.bind_eq_ok_iff]
  cases Declaration.read? text <;> simp

/-- An inferred type fits its native type. -/
theorem carries_of_infer {declared : Option String} (h : infer native declared ns = .ok t) :
    native.Carries t := by
  cases declared with
  | none =>
    obtain ⟨e, he, rfl⟩ := infer_none_eq_ok_iff.1 h
    exact carries_ofNative he
  | some text =>
    obtain ⟨e, he, d, -, hd⟩ := infer_some_eq_ok_iff.1 h
    exact carries_ofDeclaration he hd

end SequenceType

end XPathExtension
