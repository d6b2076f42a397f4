import XPathExtension.Proofs.EndToEnd

/-!
The check of the numbers of items before a call. It looks at the types of the overload with the most
parameters, whichever overload is called. On a callable without findings these are the types of the
called overload as well, which counts the items itself, so that the check refuses no call that would
have given a sequence, and all other calls go through it unchanged.
-/

namespace XPathExtension

variable {M : Type}

/-! ### Callables without findings -/

namespace Callable

variable {c : Callable M} {n : Nat}

theorem pairwise_of_isAscending {ns : List Nat} (h : isAscending ns = true) :
    ns.Pairwise (· < ·) := by
  induction ns with
  | nil => exact .nil
  | cons a ns ih =>
    cases ns with
    | nil => exact List.pairwise_singleton _ _
    | cons b ns =>
      obtain ⟨hab, hrest⟩ : a < b ∧ isAscending (b :: ns) = true := by
        simpa [isAscending] using h
      have ascending := ih hrest
      rw [List.pairwise_cons]
      refine ⟨fun k hk => ?_, ascending⟩
      rcases List.mem_cons.1 hk with rfl | hk
      · exact hab
      · exact Nat.lt_trans hab ((List.pairwise_cons.1 ascending).1 k hk)

/-- The arities are in the range of the callable, and each overload has as many conversions as
parameters and the types that are declared. -/
structure Uniform (c : Callable M) : Prop where
  range : ∀ o ∈ c.dispatch, c.minArity ≤ o.arity ∧ o.arity ≤ c.maxArity
  inputs : ∀ o ∈ c.dispatch, o.inputs.length = o.arity
  types : ∀ o ∈ c.dispatch, ∀ (k : Nat) (slot : Slot) (declared : SequenceType),
    o.inputs[k]? = some slot → c.argumentTypes[k]? = some declared → slot.type = declared

theorem types_of_otherTypes {o : Overload M} (h : c.otherTypes o = []) {k : Nat} {slot : Slot}
    {declared : SequenceType} (hslot : o.inputs[k]? = some slot)
    (hdeclared : c.argumentTypes[k]? = some declared) : slot.type = declared := by
  have hzip : (o.inputs.zip c.argumentTypes)[k]? = some (slot, declared) :=
    List.getElem?_zip_eq_some.2 ⟨hslot, hdeclared⟩
  have hmem := List.filterMap_eq_nil_iff.1 h _ (List.mk_mem_zipIdx_iff_getElem?.2 hzip)
  by_contra hne
  simp [hne] at hmem

theorem uniform_of_findings (h : c.findings = []) : c.Uniform := by
  unfold findings at h
  split at h
  case isTrue => cases h
  case isFalse =>
    rw [List.append_eq_nil_iff] at h
    obtain ⟨hascending, h⟩ := h
    split at h
    case isFalse => cases h
    case isTrue hends =>
      simp only [tableFaults, warnings, List.append_eq_nil_iff, List.flatMap_eq_nil_iff] at h
      obtain ⟨⟨-, hfaults⟩, -, htypes⟩ := h
      have hkeys : c.arities.Pairwise (· < ·) :=
        pairwise_of_isAscending (by simpa using hascending)
      refine ⟨fun o ho => ?_, fun o ho => ?_, fun o ho k slot declared hs hd => ?_⟩
      · exact range_of_ascending hkeys hends.1 hends.2 (List.mem_map_of_mem ho)
      · have hcount := hfaults o ho
        simp only [overloadFaults, List.append_eq_nil_iff] at hcount
        simpa using hcount.1
      · exact types_of_otherTypes (htypes o ho) hs hd

theorem mem_of_overload? {o : Overload M} (h : c.overload? n = some o) :
    o ∈ c.dispatch ∧ o.arity = n := by
  obtain ⟨i, hi, ho⟩ := Option.bind_eq_some_iff.1 h
  have hkey := getElem?_of_searchBetween hi
  rw [arities, List.getElem?_map, ho] at hkey
  exact ⟨List.mem_of_getElem? ho, by simpa using hkey⟩

end Callable

/-! ### Numbers of items -/

section Counts

variable {ns : Namespaces} {args : List Sequence} {name : ExpandedName}

/-- An argument is received only if it has as many items as the type of the parameter allows. -/
theorem Slot.acceptsLength_of_receive {s : Slot} {arg : Sequence} {v : NativeValue}
    (h : s.receive arg ns = .ok v) : s.type.acceptsLength arg.length = true := by
  unfold receive at h
  cases ht : s.type with
  | empty =>
    simp only [ht] at h
    split at h
    case isTrue hnil => simpa [SequenceType.acceptsLength] using hnil
    case isFalse => cases h
  | typed t o =>
    simp only [ht] at h
    split at h
    case isTrue => cases h
    case isFalse hcount => simpa [SequenceType.acceptsLength] using hcount

theorem Overload.acceptsLength_of_receiveAll {o : Overload M} {vs : List NativeValue}
    (h : o.receiveAll name ns args = .ok vs) {k : Nat} {slot : Slot} {arg : Sequence}
    (hslot : o.inputs[k]? = some slot) (harg : args[k]? = some arg) :
    slot.type.acceptsLength arg.length = true := by
  have hzip : (o.inputs.zip args)[k]? = some (slot, arg) :=
    List.getElem?_zip_eq_some.2 ⟨hslot, harg⟩
  obtain ⟨v, -, hv⟩ := Outcome.exists_of_mem_left (Outcome.mapM_eq_ok_iff.1 h)
    (List.mk_mem_zipIdx_iff_getElem?.2 hzip)
  exact Slot.acceptsLength_of_receive (Outcome.mapError_eq_ok_iff.1 hv)

theorem Engine.refuse?_eq_none_iff {declared : List SequenceType} :
    refuse? name declared args = none ↔ ∀ (k : Nat) (arg : Sequence) (t : SequenceType),
      args[k]? = some arg → declared[k]? = some t → t.acceptsLength arg.length = true := by
  unfold refuse?
  rw [Option.map_eq_none_iff, List.find?_eq_none]
  constructor
  · intro h k arg t harg ht
    have hzip : (args.zip declared)[k]? = some (arg, t) :=
      List.getElem?_zip_eq_some.2 ⟨harg, ht⟩
    simpa using h ((arg, t), k) (List.mk_mem_zipIdx_iff_getElem?.2 hzip)
  · rintro h ⟨⟨arg, t⟩, k⟩ hmem
    obtain ⟨harg, ht⟩ := List.getElem?_zip_eq_some.1 (List.mk_mem_zipIdx_iff_getElem?.1 hmem)
    simpa using h k arg t harg ht

theorem Callable.Uniform.range_of_invoke {c : Callable M} (h : c.Uniform) {s s' : M}
    {seq : Sequence} (hinvoke : c.invoke ns args s = (.ok seq, s')) :
    c.minArity ≤ args.length ∧ args.length ≤ c.maxArity := by
  obtain ⟨o, ho, -⟩ := Callable.invoke_eq_ok hinvoke
  obtain ⟨hmem, harity⟩ := Callable.mem_of_overload? ho
  rw [← harity]
  exact h.range o hmem

/-- A call that gives a sequence is not refused. -/
theorem Callable.Uniform.refuse?_of_invoke {c : Callable M} (h : c.Uniform) {s s' : M}
    {seq : Sequence} (hinvoke : c.invoke ns args s = (.ok seq, s')) :
    Engine.refuse? name c.argumentTypes args = none := by
  obtain ⟨o, ho, hcall⟩ := Callable.invoke_eq_ok hinvoke
  obtain ⟨hmem, harity⟩ := Callable.mem_of_overload? ho
  obtain ⟨vs, -, hvs, -, -⟩ := Overload.call_eq_ok hcall
  rw [Engine.refuse?_eq_none_iff]
  intro k arg declared harg hdeclared
  have hk : k < o.inputs.length := by
    rw [h.inputs o hmem, harity]
    exact (List.getElem?_eq_some_iff.1 harg).1
  have hslot : o.inputs[k]? = some o.inputs[k] := List.getElem?_eq_getElem hk
  rw [← h.types o hmem k _ declared hslot hdeclared]
  exact Overload.acceptsLength_of_receiveAll hvs hslot harg

end Counts

/-! ### Findings of accepted batches -/

namespace Batch

variable {modules : List (Module M)} {options : LoadOptions} {batch : CompiledBatch M}
  {m : Module M} {c : Callable M}

theorem mem_diagnosticsFrom {provided : Provided} {ms : List (Module M)} (hm : m ∈ ms)
    {d : Diagnostic} (hd : d ∈ m.diagnostics) : d ∈ diagnosticsFrom provided ms := by
  induction ms generalizing provided with
  | nil => cases hm
  | cons m' ms ih =>
    simp only [diagnosticsFrom, List.mem_append]
    rcases List.mem_cons.1 hm with rfl | hm
    · exact .inl (.inl hd)
    · exact .inr (ih hm)

theorem diagnostics_of_compile (h : compile modules options = .ok batch) :
    batch.diagnostics = diagnostics modules ∧
      (options.failOnWarnings = true → batch.diagnostics = []) := by
  unfold compile at h
  cases hf : (diagnostics modules).find? (isFatal options) with
  | some d => simp [hf] at h
  | none =>
    simp only [hf, Except.ok.injEq] at h
    subst h
    refine ⟨rfl, fun hfail => ?_⟩
    rw [List.eq_nil_iff_forall_not_mem]
    intro d hd
    simpa [isFatal, hfail] using List.find?_eq_none.1 hf d hd

theorem mem_diagnostics_of_findings (h : compile modules options = .ok batch) (hm : m ∈ modules)
    (hc : c ∈ m.callables) {f : Finding} (hf : f ∈ c.findings) :
    ⟨m.name, c.identity.text, f⟩ ∈ batch.diagnostics := by
  have hmem : (⟨m.name, c.identity.text, f⟩ : Diagnostic) ∈ m.diagnostics := by
    refine List.mem_append_right _ (List.mem_flatMap.2 ⟨c, hc, ?_⟩)
    exact List.mem_map_of_mem hf
  rw [(diagnostics_of_compile h).1]
  exact mem_diagnosticsFrom hm hmem

/-- A unit that no diagnostic of the batch is about. -/
def Silent (batch : CompiledBatch M) (m : Module M) (c : Callable M) : Prop :=
  ∀ d ∈ batch.diagnostics, ¬ (d.moduleName = m.name ∧ d.function = c.identity.text)

theorem uniform_of_silent (h : compile modules options = .ok batch) (hm : m ∈ modules)
    (hc : c ∈ m.callables) (hsilent : options.failOnWarnings = true ∨ Silent batch m c) :
    c.Uniform := by
  obtain ⟨-, hfail⟩ := diagnostics_of_compile h
  have hsilent : Silent batch m c := by
    rcases hsilent with hwarnings | hsilent
    · intro d hd
      rw [hfail hwarnings] at hd
      cases hd
    · exact hsilent
  refine Callable.uniform_of_findings (List.eq_nil_iff_forall_not_mem.2 fun f hf => ?_)
  exact hsilent ⟨m.name, c.identity.text, f⟩ (mem_diagnostics_of_findings h hm hc hf) ⟨rfl, rfl⟩

end Batch

/-! ### Calls -/

namespace Engine

variable {e : Engine M}

/-- The engines that come of the empty one by registering batches and by calls, in any order. -/
inductive Arises : Engine M → Prop
  | empty : Arises {}
  | register {e : Engine M} (h : Arises e) (batch : CompiledBatch M) (providers : Providers) :
      Arises (e.register batch providers)
  | call {e : Engine M} (h : Arises e) (name : ExpandedName) (ns : Namespaces)
      (args : List Sequence) (arity : Option Nat) : Arises (e.call name ns args arity).2
  | invoke {e : Engine M} (h : Arises e) (name : ExpandedName) (ns : Namespaces)
      (args : List Sequence) : Arises (e.invoke name ns args).2

/-- Each registration covers the arities of its callable. -/
def Covers (e : Engine M) : Prop :=
  ∀ r ∈ e.registry.registrations,
    r.minArity = r.entry.callable.minArity ∧ r.maxArity = r.entry.callable.maxArity

theorem Covers.register (h : e.Covers) (batch : CompiledBatch M) (providers : Providers) :
    (e.register batch providers).Covers := by
  intro r hr
  rw [registrations_register, List.mem_append] at hr
  rcases hr with hr | hr
  · exact h r hr
  · obtain ⟨m, -, hr⟩ := List.mem_flatMap.1 hr
    obtain ⟨c, -, rfl⟩ := List.mem_map.1 hr
    exact ⟨rfl, rfl⟩

theorem Covers.of_keeps {e' : Engine M} (h : e.Covers) (hkeeps : e.Keeps e') : e'.Covers := by
  unfold Covers
  rw [hkeeps.registry]
  exact h

theorem Arises.covers (h : Arises e) : e.Covers := by
  induction h with
  | empty =>
    intro r hr
    cases hr
  | register _ batch providers ih => exact ih.register batch providers
  | call _ name ns args arity ih => exact ih.of_keeps (keeps_call _ name ns args arity)
  | invoke _ name ns args ih => exact ih.of_keeps (keeps_invoke _ name ns args)

variable {name : ExpandedName} {n : Nat} {x : Extension M} {ns : Namespaces}
  {args : List Sequence}

theorem exists_of_resolve (hx : e.resolve name n = .ok x) :
    ∃ r ∈ e.registry.candidates name, r.covers n = true ∧ r.entry = x := by
  obtain ⟨r, hr, rfl⟩ := Outcome.map_eq_ok_iff.1 hx
  obtain ⟨hmem, hcovers⟩ := Registry.mem_of_resolve hr
  exact ⟨r, hmem, hcovers, rfl⟩

/-- A number of arguments is covered if and only if it is in the range of the callable. -/
theorem Covers.covers_iff (h : e.Covers) {r : Registration (Extension M)}
    (hr : r ∈ e.registry.candidates name) :
    r.covers n = true ↔ r.entry.callable.minArity ≤ n ∧ n ≤ r.entry.callable.maxArity := by
  obtain ⟨hmin, hmax⟩ := h r ((e.registry).mem_candidates.1 hr).1
  simp [Registration.covers, hmin, hmax]

theorem Covers.exists_resolve (h : e.Covers) (hx : e.resolve name n = .ok x) {k : Nat}
    (hmin : x.callable.minArity ≤ k) (hmax : k ≤ x.callable.maxArity) :
    ∃ y, e.resolve name k = .ok y := by
  obtain ⟨r, hr, -, rfl⟩ := exists_of_resolve hx
  obtain ⟨r', hr'⟩ := Registry.exists_resolve_of_covers hr ((h.covers_iff hr).2 ⟨hmin, hmax⟩)
  exact ⟨r'.entry, Outcome.map_eq_ok_iff.2 ⟨r', hr', rfl⟩⟩

theorem callExtension_eq_ok {seq : Sequence} (h : (e.callExtension x ns args).1 = .ok seq) :
    ∃ s s', x.callable.invoke ns args s = (.ok seq, s') := by
  unfold callExtension at h
  cases hi : e.instances[x.instanceIndex]? with
  | none => simp [hi] at h
  | some i =>
    simp only [hi, runAt, ModuleInstance.run] at h
    exact ⟨i.get.1, _, Prod.ext h rfl⟩

/-- The check before a call of a function without findings is not seen: the call gives a sequence
if and only if the function called directly does, and then both leave the same engine. The function
is what the name resolves to for any number of arguments, and the arguments are as many as one
likes, except that the name may not resolve to another function for them. -/
theorem invoke_eq_ok_iff_callExtension {modules : List (Module M)} {options : LoadOptions}
    {batch : CompiledBatch M} (hcompile : Batch.compile modules options = .ok batch)
    {m : Module M} (hm : m ∈ modules) {c : Callable M} (hc : c ∈ m.callables)
    (hsilent : options.failOnWarnings = true ∨ Batch.Silent batch m c) (he : Arises e)
    (hx : e.resolve name n = .ok x) (hxc : x.callable = c) (ns : Namespaces)
    (args : List Sequence) (hother : ∀ y, e.resolve name args.length = .ok y → y = x)
    (seq : Sequence) :
    ((e.invoke name ns args).1 = .ok seq ↔ (e.callExtension x ns args).1 = .ok seq) ∧
      ((e.callExtension x ns args).1 = .ok seq →
        e.invoke name ns args = e.callExtension x ns args) := by
  subst hxc
  have huniform := Batch.uniform_of_silent hcompile hm hc hsilent
  have hpass (hcall : (e.callExtension x ns args).1 = .ok seq) :
      e.invoke name ns args = e.callExtension x ns args := by
    obtain ⟨s, s', hinvoke⟩ := callExtension_eq_ok hcall
    obtain ⟨hmin, hmax⟩ := huniform.range_of_invoke hinvoke
    have hresolve : e.resolve name args.length = .ok x := by
      obtain ⟨y, hy⟩ := he.covers.exists_resolve hx hmin hmax
      rw [hy, hother y hy]
    have hrefuse : refuse? name x.callable.argumentTypes args = none :=
      huniform.refuse?_of_invoke hinvoke
    simp only [invoke, hresolve, hrefuse]
  refine ⟨⟨fun h => ?_, fun h => ?_⟩, hpass⟩
  · cases hy : e.resolve name args.length with
    | error f => simp [invoke, hy] at h
    | ok y =>
      obtain rfl := hother y hy
      simp only [invoke, hy] at h
      split at h
      case h_1 => cases h
      case h_2 => exact h
  · rw [hpass h]
    exact h

/-- A module with functions of one and of two arguments under one name. -/
def adjacent : ModuleDraft Unit where
  typeName := "Sums"
  initial := ()
  name := "sums"
  functions := [1, 2].map fun n => {
    name := "sum"
    native := .ofFunction (List.replicate n (.base .bool)) (.base .bool) fun _ => true }

theorem invoke_eq_ok_iff_callExtension_adjacent :
    ∃ modules batch x, [adjacent].mapM ModuleDraft.build = .ok modules ∧
      Batch.compile modules { failOnWarnings := true } = .ok batch ∧
      (Engine.register {} batch {}).resolve
        (.inNamespace (ModuleDraft.defaultNamespace "sums") "sum") 1 = .ok x ∧
      ∀ seq, ((Engine.register {} batch {}).invoke
          (.inNamespace (ModuleDraft.defaultNamespace "sums") "sum") .empty
          [[.atomic (.boolean false)]]).1 = .ok seq ↔
        ((Engine.register {} batch {}).callExtension x .empty
          [[.atomic (.boolean false)]]).1 = .ok seq := by
  have hresolve : ([adjacent].mapM ModuleDraft.build).toOption.any (fun modules =>
      (Batch.compile modules { failOnWarnings := true }).toOption.any fun batch =>
        ((Engine.register {} batch {}).resolve
          (.inNamespace (ModuleDraft.defaultNamespace "sums") "sum") 1).toOption.isSome) =
      true := by
    decide +kernel
  cases hbuild : [adjacent].mapM ModuleDraft.build with
  | error e =>
    rw [hbuild] at hresolve
    cases hresolve
  | ok modules =>
    cases hcompile : Batch.compile modules { failOnWarnings := true } with
    | error e => simp [hbuild, hcompile, Except.toOption] at hresolve
    | ok batch =>
      cases hx : (Engine.register {} batch {}).resolve
          (.inNamespace (ModuleDraft.defaultNamespace "sums") "sum") 1 with
      | error e => simp [hbuild, hcompile, hx, Except.toOption] at hresolve
      | ok x =>
        have hstart : Reaches (Engine.register {} batch {}) (Engine.register {} batch {}) := .refl
        have hserves := serves_of_reaches hbuild hcompile hstart
        obtain ⟨b, hb, hc, -⟩ := hserves.exists_of_resolve hx
        have harises : Arises (Engine.register {} batch {}) := .register .empty batch {}
        have hpass := invoke_eq_ok_iff_callExtension hcompile (List.mem_of_getElem? hb) hc
          (.inl rfl) harises hx rfl .empty [[.atomic (.boolean false)]]
          fun y hy => Except.ok.inj (hy.symm.trans hx)
        exact ⟨modules, batch, x, rfl, hcompile, hx, fun seq => (hpass seq).1⟩

end Engine

end XPathExtension
