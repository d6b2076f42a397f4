import XPathExtension.Conversion.Slot
import XPathExtension.Proofs.Inference

/-!
Arguments as what their items are received as. A slot whose type its native type can carry receives
an argument exactly if the type accepts the number of items and each item is received; the native
value is then a list of what the items give, or what the only item gives, or what stands for no
items. A refusal is a type error of the slot or the fault of an item.
-/

namespace XPathExtension

namespace NativeType

variable {native : NativeType} {type : SequenceType}

/-- The native value made of those of the items, at most one unless the type is an array. -/
def gather (native : NativeType) (vs : List NativeValue) : Option NativeValue :=
  if native.isArray then some (.sequence vs)
  else
    match vs with
    | [] => native.default?
    | [v] => some v
    | _ => none

theorem gather_nil (native : NativeType) : native.gather [] = native.default? := by
  cases native <;> rfl

theorem gather_of_isArray (h : native.isArray = true) (vs : List NativeValue) :
    native.gather vs = some (.sequence vs) := if_pos h

theorem gather_singleton (h : native.isArray = false) (v : NativeValue) :
    native.gather [v] = some v := by
  rw [gather, h]
  rfl

/-- Where no items are allowed, something stands for them. -/
theorem Carries.hasDefault (hc : native.Carries type) (hu : native.isUnit = false)
    (h : type.acceptsLength 0 = true) : native.hasDefault = true := by
  cases hc with
  | empty hd =>
    rcases hd with hunit | hd
    · cases hunit.symm.trans hu
    · exact hd
  | unit hunit => cases hunit.symm.trans hu
  | @typed e test o _ he hfits =>
    have hempty : o.allowsEmpty = true := by simpa [SequenceType.acceptsLength] using h
    cases o with
    | zeroOrOne => exact hfits.optional rfl
    | zeroOrMore =>
      have harray : native.isArray = true := hfits.many.symm
      rw [hasDefault, ← gather_nil, gather_of_isArray harray]
      rfl
    | _ => cases hempty

theorem exists_gather (hc : native.Carries type) (hu : native.isUnit = false)
    {vs : List NativeValue} (h : type.acceptsLength vs.length = true) :
    ∃ v, native.gather vs = some v := by
  cases harray : native.isArray with
  | true => exact ⟨_, gather_of_isArray harray vs⟩
  | false =>
    match vs with
    | [] =>
      rw [gather_nil]
      exact Option.isSome_iff_exists.1 (hc.hasDefault hu h)
    | [v] => exact ⟨v, gather_singleton harray v⟩
    | v :: v' :: rest =>
      -- the type allows one item at most
      cases hc with
      | empty => simp [SequenceType.acceptsLength] at h
      | unit hunit => cases hunit.symm.trans hu
      | @typed e test o _ he hfits =>
        have hone : o.allowsMany = false := hfits.many.trans harray
        cases o with
        | one | zeroOrOne => simp [SequenceType.acceptsLength, Occurrence.accepts] at h
        | _ => cases hone

end NativeType

namespace Slot

variable {s : Slot} {ns : Namespaces} {arg : Sequence} {v : NativeValue} {e : ConversionError}

/-- The items are received one by one as items of the type. -/
def ReceivesItems (s : Slot) (ns : Namespaces) : Sequence → List NativeValue → Prop :=
  List.Forall₂ fun i u => ∃ t, s.type.item? = some t ∧ receiveItem t ns i = .ok u

theorem receiveNone_eq_ok_iff : s.receiveNone = .ok v ↔ s.native.default? = some v := by
  unfold receiveNone
  cases s.native.default? <;> simp

theorem receive_empty_eq_ok_iff (ht : s.type = .empty) : s.receive arg ns = .ok v ↔
    arg = [] ∧ s.native.default? = some v := by
  rw [receive, ht]
  dsimp only
  split
  case isTrue hnil =>
    obtain rfl := List.isEmpty_iff.1 hnil
    simp [receiveNone_eq_ok_iff]
  case isFalse hne =>
    have hne : arg ≠ [] := fun h => hne (List.isEmpty_iff.2 h)
    simp [hne]

section Typed

variable {t : ItemType} {o : Occurrence} (ht : s.type = .typed t o)
include ht

theorem receivesItems_iff {vs : List NativeValue} :
    s.ReceivesItems ns arg vs ↔ List.Forall₂ (fun i u => receiveItem t ns i = .ok u) arg vs := by
  simp [ReceivesItems, ht, SequenceType.item?]

theorem receive_of_not_accepts (h : o.accepts arg.length = false) : s.receive arg ns =
    .error (.wrongCount (expectedText o) s.type.text arg.length) := by
  simp [receive, ht, h]

theorem receive_many (hmany : o.allowsMany = true) (h : o.accepts arg.length = true) :
    s.receive arg ns = .sequence <$> arg.mapM (receiveItem t ns) := by
  simp [receive, ht, h, hmany]

theorem receive_nil_of_accepts (hone : o.allowsMany = false) (h : o.accepts 0 = true) :
    s.receive [] ns = s.receiveNone := by
  rw [receive, ht]
  simp only [List.length_nil, h, hone]
  rfl

theorem receive_cons_of_accepts (hone : o.allowsMany = false) (i : Item) (is : Sequence)
    (h : o.accepts (i :: is).length = true) : s.receive (i :: is) ns = receiveItem t ns i := by
  simp only [receive, ht, h, hone]
  rfl

end Typed

theorem eq_nil_of_accepts {o : Occurrence} (hone : o.allowsMany = false) {i : Item} {is : Sequence}
    (h : o.accepts (i :: is).length = true) : is = [] := by
  cases o with
  | one => simpa [Occurrence.accepts] using h
  | zeroOrOne => simpa [Occurrence.accepts] using h
  | _ => cases hone

/-- An argument is received exactly if its length is accepted and each item is received. -/
theorem receive_eq_ok_iff (hu : s.native.isUnit = false) (hc : s.native.Carries s.type) :
    s.receive arg ns = .ok v ↔ s.type.acceptsLength arg.length = true ∧
      ∃ vs, s.ReceivesItems ns arg vs ∧ s.native.gather vs = some v := by
  generalize htype : s.type = type at hc
  cases hc with
  | empty =>
    rw [receive_empty_eq_ok_iff htype, SequenceType.acceptsLength, beq_iff_eq,
      List.length_eq_zero_iff]
    refine and_congr_right fun harg => ?_
    subst harg
    simp [ReceivesItems, NativeType.gather_nil]
  | unit hunit => cases hunit.symm.trans hu
  | @typed e test o _ he hfits =>
    simp only [receivesItems_iff htype, SequenceType.acceptsLength]
    cases haccepts : o.accepts arg.length with
    | false => simp [receive_of_not_accepts htype haccepts]
    | true =>
      simp only [true_and]
      cases hmany : o.allowsMany with
      | true =>
        have harray : s.native.isArray = true := hfits.many.symm.trans hmany
        simp [receive_many htype hmany haccepts, Outcome.mapM_eq_ok_iff,
          NativeType.gather_of_isArray harray]
      | false =>
        have harray : s.native.isArray = false := hfits.many.symm.trans hmany
        cases arg with
        | nil =>
          simp [receive_nil_of_accepts htype hmany haccepts, receiveNone_eq_ok_iff,
            NativeType.gather_nil]
        | cons i is =>
          obtain rfl := eq_nil_of_accepts hmany haccepts
          rw [receive_cons_of_accepts htype hmany i [] haccepts]
          constructor
          · intro hi
            exact ⟨[v], .cons hi .nil, NativeType.gather_singleton harray v⟩
          · rintro ⟨vs, hvs, hv⟩
            obtain ⟨u, us, hi, hnil, rfl⟩ := List.forall₂_cons_left_iff.1 hvs
            obtain rfl := List.forall₂_nil_left_iff.1 hnil
            rw [NativeType.gather_singleton harray] at hv
            rw [hi, Option.some.inj hv]

theorem exists_receive_iff (hu : s.native.isUnit = false) (hc : s.native.Carries s.type) :
    (∃ v, s.receive arg ns = .ok v) ↔ s.type.acceptsLength arg.length = true ∧
      ∀ i ∈ arg, ∃ u t, s.type.item? = some t ∧ receiveItem t ns i = .ok u := by
  simp only [receive_eq_ok_iff hu hc]
  constructor
  · rintro ⟨v, hlength, vs, hvs, -⟩
    refine ⟨hlength, fun i hi => ?_⟩
    obtain ⟨u, -, hu⟩ := Outcome.exists_of_mem_left hvs hi
    exact ⟨u, hu⟩
  · rintro ⟨hlength, hitems⟩
    obtain ⟨vs, hvs⟩ := Outcome.exists_forall₂ hitems
    obtain ⟨v, hv⟩ := NativeType.exists_gather hc hu (hvs.length_eq ▸ hlength)
    exact ⟨v, hlength, vs, hvs, hv⟩

/-- The fault of a refused argument is a type error, or that of one of its items. -/
theorem fault_of_receive (h : s.receive arg ns = .error e) : e.code = .xpty0004 ∨
    ∃ t, s.type.item? = some t ∧ ∃ i ∈ arg, receiveItem t ns i = .error e := by
  have hnone (h : s.receiveNone = .error e) : e.code = .xpty0004 := by
    unfold receiveNone at h
    split at h
    case h_1 => cases h
    case h_2 =>
      obtain rfl := Except.error.inj h
      rfl
  cases htype : s.type with
  | empty =>
    rw [receive, htype] at h
    dsimp only at h
    split at h
    case isTrue => exact .inl (hnone h)
    case isFalse =>
      obtain rfl := Except.error.inj h
      exact .inl rfl
  | typed t o =>
    cases haccepts : o.accepts arg.length with
    | false =>
      rw [receive_of_not_accepts htype haccepts] at h
      obtain rfl := Except.error.inj h
      exact .inl rfl
    | true =>
      cases hmany : o.allowsMany with
      | true =>
        rw [receive_many htype hmany haccepts, Outcome.map_eq_error_iff] at h
        obtain ⟨before, i, after, -, rfl, -, hi⟩ := Outcome.mapM_eq_error_iff.1 h
        exact .inr ⟨t, rfl, i, by simp, hi⟩
      | false =>
        cases arg with
        | nil =>
          rw [receive_nil_of_accepts htype hmany haccepts] at h
          exact .inl (hnone h)
        | cons i is =>
          rw [receive_cons_of_accepts htype hmany i is haccepts] at h
          exact .inr ⟨t, rfl, i, by simp, h⟩

end Slot

end XPathExtension
