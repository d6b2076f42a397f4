import XPathExtension.Function
import XPathExtension.Proofs.Receiving

/-!
Absent arguments. Where the type of a parameter allows that there are no items, an argument without
items is received as what stands for an absent value of the native type. The host reads that as a
value and the function runs, for all parameter types but one: an enumeration without a wrapper has
to have the neutral text, which stands for an absent text, as a variant.
-/

namespace XPathExtension

namespace Wrapping

/-- What stands for an absent value is a value of the parameter type, also if that is an enumeration
without a wrapper. -/
def ReadsAbsent (w : Wrapping) (t : BaseType) : Prop :=
  ∀ e, w = .bare → t = .enumeration e → "" ∈ e.variants

variable {w : Wrapping} {t : BaseType} {type : SequenceType} {v : NativeValue}

theorem fromNative_of_default? (h : (w.wrap t).describe.default? = some v)
    (habsent : w.ReadsAbsent t) : ∃ x, (w.wrap t).fromNative v = .ok x := by
  rcases fromNative_of_hasNative (NativeType.hasNative_of_default? h) with hx | ⟨e, s, rfl, -, -⟩
  · exact hx
  · -- a wrapper is read before the enumeration is looked at
    cases w with
    | bare =>
      obtain rfl := Option.some.inj h
      exact ⟨_, BaseType.fromNative_variant (habsent e rfl rfl)⟩
    | list =>
      obtain rfl := Option.some.inj h
      exact ⟨[], rfl⟩
    | option =>
      obtain rfl := Option.some.inj h
      exact ⟨none, rfl⟩

theorem fromNative_of_not_readsAbsent (h : (w.wrap t).describe.default? = some v)
    (habsent : ¬ w.ReadsAbsent t) :
    ∃ e, t = .enumeration e ∧ (w.wrap t).fromNative v = .error (.unknownVariant "" e.name) := by
  obtain ⟨e, rfl, rfl, hvariant⟩ : ∃ e, w = .bare ∧ t = .enumeration e ∧ "" ∉ e.variants := by
    simpa [ReadsAbsent] using habsent
  obtain rfl := Option.some.inj h
  exact ⟨e, rfl, BaseType.fromNative_unknownVariant hvariant⟩

/-- An empty argument is received wherever its length is allowed. -/
theorem receive_nil (hc : (w.wrap t).describe.Carries type) (hempty : type.acceptsLength 0 = true)
    (ns : Namespaces) : ∃ v, Slot.receive ⟨type, (w.wrap t).describe⟩ [] ns = .ok v ∧
      (w.wrap t).describe.default? = some v := by
  obtain ⟨v, hv⟩ := Option.isSome_iff_exists.1 (hc.hasDefault isUnit_describe_wrap hempty)
  refine ⟨v, (Slot.receive_eq_ok_iff isUnit_describe_wrap hc).2 ⟨hempty, [], .nil, ?_⟩, hv⟩
  rw [NativeType.gather_nil, hv]

/-- An absent argument of a parameter, bare or in a list or an option, whose type is inferred from
any declaration or none and allows that there are no items. It is always received, and the function
runs on a value of the parameter if the other arguments are read. For an enumeration without a
wrapper, where the neutral text is no variant, it is refused when it is read, and the function never
runs. -/
theorem call_of_absent (w : Wrapping) (t : BaseType) (declared : Option String)
    (bindings : Namespaces) {type : SequenceType}
    (hi : SequenceType.infer (w.wrap t).describe declared bindings = .ok type)
    (hempty : type.acceptsLength 0 = true) (ns : Namespaces) :
    ∃ v, Slot.receive ⟨type, (w.wrap t).describe⟩ [] ns = .ok v ∧
      (w.ReadsAbsent t → ∃ x, (w.wrap t).fromNative v = .ok x ∧
        ∀ {M : Type} ts result isMethod body (m : M) vs xs,
          HostType.readArguments ts vs = .ok xs →
          NativeFunction.call ⟨w.wrap t :: ts, result, isMethod, body⟩ (v :: vs) m =
            (body (x, xs) m).map (Except.map result.toNative) id) ∧
      (¬ w.ReadsAbsent t → ∃ f, (w.wrap t).fromNative v = .error f ∧
        f.toError.kind = .forg0001 ∧
        ∀ {M : Type} ts result isMethod body (m : M) vs,
          NativeFunction.call ⟨w.wrap t :: ts, result, isMethod, body⟩ (v :: vs) m =
            (.error f.toError, m)) := by
  obtain ⟨v, hreceive, hdefault⟩ := receive_nil (SequenceType.carries_of_infer hi) hempty ns
  refine ⟨v, hreceive, ?_, ?_⟩
  · intro habsent
    obtain ⟨x, hx⟩ := fromNative_of_default? hdefault habsent
    exact ⟨x, hx, fun _ _ _ _ _ _ _ => NativeFunction.call_cons hx⟩
  · intro habsent
    obtain ⟨e, rfl, he⟩ := fromNative_of_not_readsAbsent hdefault habsent
    exact ⟨_, he, Error.ofCode_kind _ _, fun _ _ _ _ _ _ => NativeFunction.call_cons_of_error he⟩

theorem call_of_absent_byte :
    ∃ type v, SequenceType.infer (wrap .bare (.integer .u8)).describe (some "xs:string?") .builtin =
        .ok type ∧
      Slot.receive ⟨type, (wrap .bare (.integer .u8)).describe⟩ [] .empty = .ok v ∧
      NativeFunction.call
        ⟨[wrap .bare (.integer .u8)], .base .bool, false, fun _ m => (.ok true, m)⟩ [v] () =
          (.ok (.bool true), ()) := by
  have hi : SequenceType.infer (wrap .bare (.integer .u8)).describe (some "xs:string?") .builtin =
      .ok (.typed ⟨.atomic (.text .string), BaseType.describe (.integer .u8)⟩ .zeroOrOne) := by
    decide +kernel
  obtain ⟨v, hv, hcall, -⟩ := call_of_absent .bare (.integer .u8) _ _ hi rfl .empty
  obtain ⟨x, -, hcall⟩ := hcall (fun e _ h => by cases h)
  exact ⟨_, v, hi, hv, hcall [] (.base .bool) false (fun _ m => (.ok true, m)) () [] () rfl⟩

/-- An enumeration that does not have the neutral text. -/
def mode : BaseType := .enumeration ⟨"Mode", ["fast", "slow"]⟩

/-- An enumeration without a wrapper may be declared optional, and absent arguments are refused. -/
theorem not_readsAbsent_enumeration :
    ∃ type v f, SequenceType.infer (wrap .bare mode).describe (some "xs:string?") .builtin =
        .ok type ∧
      type.acceptsLength 0 = true ∧
      Slot.receive ⟨type, (wrap .bare mode).describe⟩ [] .empty = .ok v ∧
      (wrap .bare mode).fromNative v = .error f ∧ f.toError.kind = .forg0001 := by
  have hi : SequenceType.infer (wrap .bare mode).describe (some "xs:string?") .builtin =
      .ok (.typed ⟨.atomic (.text .string), mode.describe⟩ .zeroOrOne) := by
    decide +kernel
  exact ⟨_, .string "", .unknownVariant "" "Mode", hi, rfl, rfl,
    BaseType.fromNative_unknownVariant (by decide), Error.ofCode_kind _ _⟩

end Wrapping

end XPathExtension
