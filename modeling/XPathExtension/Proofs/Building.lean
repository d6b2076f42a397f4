import XPathExtension.Module
import XPathExtension.Proofs.Grouping

/-!
What a built module keeps of its draft. Each registered function has one description, in the order of
registration, and each description holds what was inferred for the places of its signature.
-/

namespace XPathExtension.ModuleDraft

variable {M : Type} {m : ModuleDraft M} {f : FunctionDraft M} {g : DescribedFunction M}
  {ns : String}

/-- The namespace of the functions, declared or not. -/
def functionNamespace (m : ModuleDraft M) : String := m.ns.getD (defaultNamespace m.name)

@[simp] theorem fault_ne_ok {α : Type} (m : ModuleDraft M) (f : BindingFault) (a : α) :
    m.fault f ≠ .ok a := by
  simp [fault]

theorem resolveNamespace_eq_ok (h : m.resolveNamespace = .ok ns) : ns = m.functionNamespace := by
  unfold resolveNamespace at h
  unfold functionNamespace
  cases hns : m.ns with
  | none => simpa [hns] using h.symm
  | some u =>
    cases hu : Uri.fault? u with
    | none => simpa [hns, hu] using h.symm
    | some reason => simp [hns, hu] at h

theorem inferSlot_eq_ok_iff {function : String} {place : Place} {native : NativeType}
    {declared : Option String} {s : Slot} :
    m.inferSlot function place native declared = .ok s ↔
      SequenceType.infer native declared m.bindings = .ok s.type ∧ s.native = native := by
  unfold inferSlot
  cases SequenceType.infer native declared m.bindings with
  | error e => simp
  | ok t =>
    obtain ⟨type, native'⟩ := s
    simp [eq_comm]

theorem inferParameter_eq_ok {i : Nat} {t : HostType} {p : Parameter}
    (h : m.inferParameter f i t = .ok p) :
    p.name = (f.overrides.name? i).getD ("arg" ++ toString (i + 1)) ∧
      SequenceType.infer t.describe (f.overrides.parameter? i) m.bindings = .ok p.slot.type ∧
      p.slot.native = t.describe := by
  simp only [inferParameter, Outcome.bind_eq_ok_iff] at h
  obtain ⟨slot, hslot, h⟩ := h
  obtain rfl := Except.ok.inj h
  exact ⟨rfl, inferSlot_eq_ok_iff.1 hslot⟩

/-- Only a function that only acts has a result with an empty type. -/
theorem inferResult_eq_ok {s : Slot} (h : m.inferResult f = .ok s) :
    SequenceType.infer f.native.result.describe f.overrides.result m.bindings = .ok s.type ∧
      s.native = f.native.result.describe ∧ (s.type = .empty → s.native.isUnit = true) := by
  simp only [inferResult, Outcome.bind_eq_ok_iff] at h
  obtain ⟨s', hs, h⟩ := h
  split at h
  case isTrue => simp at h
  case isFalse hempty =>
    obtain rfl := Except.ok.inj h
    obtain ⟨hi, hnative⟩ := inferSlot_eq_ok_iff.1 hs
    refine ⟨hi, hnative, fun ht => ?_⟩
    rw [hnative]
    simpa [ht] using hempty

theorem group_eq_ok {functions : List (DescribedFunction M)} {groups : List OverloadSet}
    (h : m.group functions = .ok groups) :
    OverloadSet.ofSignatures (functions.map (·.description.signature)) = .ok groups := by
  unfold group at h
  cases hs : OverloadSet.ofSignatures (functions.map (·.description.signature)) with
  | ok groups' => simpa [hs] using h
  | error e => simp [hs] at h

/-- What the description of a function holds. -/
structure Describes (m : ModuleDraft M) (f : FunctionDraft M) (g : DescribedFunction M) : Prop where
  native : g.native = f.native
  name : g.description.name = .inNamespace m.functionNamespace f.name
  moduleName : g.description.moduleName = m.name
  parameters : List.Forall₂ (fun (t, i) p => m.inferParameter f i t = .ok p)
    f.native.parameters.zipIdx g.description.parameters
  result : m.inferResult f = .ok g.description.result

theorem Describes.arity (h : m.Describes f g) :
    g.description.arity = f.native.parameters.length := by
  have hlength := h.parameters.length_eq
  rw [List.length_zipIdx] at hlength
  exact hlength.symm

theorem describes_of_describe (h : m.describe m.functionNamespace f = .ok g) :
    m.Describes f g := by
  simp only [describe, Outcome.bind_eq_ok_iff] at h
  obtain ⟨-, -, -, -, -, -, parameters, hparameters, result, hresult, h⟩ := h
  obtain rfl := Except.ok.inj h
  exact ⟨rfl, rfl, rfl, Outcome.mapM_eq_ok_iff.1 hparameters, hresult⟩

theorem sideEffects_of_describe (h : m.describe m.functionNamespace f = .ok g) :
    g.description.sideEffects = f.overrides.sideEffects := by
  simp only [describe, Outcome.bind_eq_ok_iff] at h
  obtain ⟨-, -, -, -, -, -, parameters, -, result, -, h⟩ := h
  obtain rfl := Except.ok.inj h
  rfl

/-- What a module has of its draft. -/
structure Builds (m : ModuleDraft M) (b : Module M) : Prop where
  initial : b.initial = m.initial
  name : b.name = m.name
  ns : b.ns = m.functionNamespace
  isStatic : b.isStatic = m.isStatic
  dependencies : b.dependencies = m.dependencies
  functions : List.Forall₂ (fun f g => m.describe m.functionNamespace f = .ok g)
    m.functions b.functions
  groups : OverloadSet.ofSignatures (b.functions.map (·.description.signature)) = .ok b.groups

theorem builds_of_build {b : Module M} (h : m.build = .ok b) : m.Builds b := by
  simp only [build, Outcome.bind_eq_ok_iff] at h
  obtain ⟨-, -, -, -, ns, hns, functions, hfunctions, groups, hgroups, h⟩ := h
  obtain rfl := Except.ok.inj h
  obtain rfl := resolveNamespace_eq_ok hns
  exact ⟨rfl, rfl, rfl, rfl, rfl, Outcome.mapM_eq_ok_iff.1 hfunctions, group_eq_ok hgroups⟩

end XPathExtension.ModuleDraft
