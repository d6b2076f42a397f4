import XPathExtension.Callable

/-!
Failed calls. The conversions of the arguments come first, from the first argument on, then their
reading as the parameters of the native function, then its body and at last the conversion of the
result. The first of these that fails ends the call, with its own error in the context of the call;
the body has run once if it was reached and not at all otherwise.
-/

namespace XPathExtension

/-! ### Steps that fail -/

section Steps

variable {ε ε' α : Type} {r : Except ε α} {steps : List (Except ε α)} {k : Nat} {e : ε}

/-- The step at the position fails, and all before it succeed. -/
def FirstFailure (steps : List (Except ε α)) (k : Nat) (e : ε) : Prop :=
  steps[k]? = some (.error e) ∧ ∀ j < k, ∃ a, steps[j]? = some (.ok a)

theorem firstFailure_cons_zero_iff : FirstFailure (r :: steps) 0 e ↔ r = .error e := by
  simp [FirstFailure]

theorem firstFailure_cons_succ_iff :
    FirstFailure (r :: steps) (k + 1) e ↔ (∃ a, r = .ok a) ∧ FirstFailure steps k e := by
  constructor
  · rintro ⟨hk, hbefore⟩
    obtain ⟨a, ha⟩ := hbefore 0 (Nat.zero_lt_succ k)
    exact ⟨⟨a, Option.some.inj ha⟩, hk, fun j hj => hbefore (j + 1) (Nat.succ_lt_succ hj)⟩
  · rintro ⟨⟨a, rfl⟩, hk, hbefore⟩
    refine ⟨hk, fun j hj => ?_⟩
    cases j with
    | zero => exact ⟨a, rfl⟩
    | succ j => exact hbefore j (Nat.lt_of_succ_lt_succ hj)

/-- Steps of which one fails have a first one that fails. -/
theorem exists_firstFailure (h : ∃ e, .error e ∈ steps) : ∃ k e, FirstFailure steps k e := by
  induction steps with
  | nil => simp at h
  | cons r steps ih =>
    cases r with
    | error e => exact ⟨0, e, firstFailure_cons_zero_iff.2 rfl⟩
    | ok a =>
      obtain ⟨e, he⟩ := h
      have hrest : .error e ∈ steps := by simpa using he
      obtain ⟨k, e, hk⟩ := ih ⟨e, hrest⟩
      exact ⟨k + 1, e, firstFailure_cons_succ_iff.2 ⟨⟨a, rfl⟩, hk⟩⟩

theorem exists_error_or_eq_map_ok (steps : List (Except ε α)) :
    (∃ e, .error e ∈ steps) ∨ ∃ as : List α, steps = as.map .ok := by
  induction steps with
  | nil => exact .inr ⟨[], rfl⟩
  | cons r steps ih =>
    cases r with
    | error e => exact .inl ⟨e, List.mem_cons_self⟩
    | ok a =>
      rcases ih with ⟨e, he⟩ | ⟨as, rfl⟩
      · exact .inl ⟨e, List.mem_cons_of_mem _ he⟩
      · exact .inr ⟨a :: as, rfl⟩

/-- Steps with errors that name their positions fail with the error of the first one that fails. -/
theorem mapM_zipIdx_of_firstFailure (context : Nat → ε → ε') (n : Nat)
    (h : FirstFailure steps k e) :
    ((steps.zipIdx n).mapM fun s => s.1.mapError (context s.2)) = .error (context (n + k) e) := by
  induction steps generalizing n k with
  | nil => simp [FirstFailure] at h
  | cons r steps ih =>
    rw [List.zipIdx_cons, List.mapM_cons]
    cases k with
    | zero =>
      obtain rfl := firstFailure_cons_zero_iff.1 h
      rfl
    | succ k =>
      obtain ⟨⟨a, rfl⟩, hk⟩ := firstFailure_cons_succ_iff.1 h
      rw [ih (n + 1) hk, Nat.add_right_comm, Nat.add_assoc]
      rfl

theorem mapM_zipIdx_of_ok (context : Nat → ε → ε') (n : Nat) (as : List α) :
    (((as.map .ok).zipIdx n).mapM fun s : Except ε α × Nat => s.1.mapError (context s.2)) =
      .ok as := by
  induction as generalizing n with
  | nil => rfl
  | cons a as ih =>
    rw [List.map_cons, List.zipIdx_cons, List.mapM_cons, ih]
    rfl

end Steps

/-! ### Conversions -/

/-- The readings of native values as parameters, each by itself. -/
def HostType.readings : List HostType → List NativeValue → List (Except ArgumentError Unit)
  | [], _ => []
  | _ :: ts, [] => .error .missing :: readings ts []
  | t :: ts, v :: vs => ((t.fromNative v).map fun _ => ()).mapError .native :: readings ts vs

/-- The first parameter that cannot be read is blamed. -/
theorem HostType.readArguments_of_firstFailure {ts : List HostType} {vs : List NativeValue}
    {k : Nat} {f : ArgumentError} (h : FirstFailure (readings ts vs) k f) :
    readArguments ts vs = .error f := by
  induction ts generalizing vs k with
  | nil => simp [readings, FirstFailure] at h
  | cons t ts ih =>
    cases vs with
    | nil =>
      cases k with
      | zero =>
        obtain rfl := Except.error.inj (firstFailure_cons_zero_iff.1 h)
        rfl
      | succ k =>
        obtain ⟨⟨a, ha⟩, -⟩ := firstFailure_cons_succ_iff.1 h
        cases ha
    | cons v vs =>
      rw [readings] at h
      rw [readArguments]
      cases hv : t.fromNative v with
      | error g =>
        rw [hv] at h
        cases k with
        | zero =>
          obtain rfl := Except.error.inj (firstFailure_cons_zero_iff.1 h)
          rfl
        | succ k =>
          obtain ⟨⟨a, ha⟩, -⟩ := firstFailure_cons_succ_iff.1 h
          cases ha
      | ok x =>
        rw [hv] at h
        cases k with
        | zero => cases firstFailure_cons_zero_iff.1 h
        | succ k =>
          rw [ih (firstFailure_cons_succ_iff.1 h).2]
          rfl

theorem HostType.exists_error_or_readArguments (ts : List HostType) (vs : List NativeValue) :
    (∃ f, .error f ∈ readings ts vs) ∨ ∃ a, readArguments ts vs = .ok a := by
  induction ts generalizing vs with
  | nil => exact .inr ⟨(), rfl⟩
  | cons t ts ih =>
    cases vs with
    | nil => exact .inl ⟨.missing, List.mem_cons_self⟩
    | cons v vs =>
      rw [readings, readArguments]
      cases t.fromNative v with
      | error f => exact .inl ⟨.native f, List.mem_cons_self⟩
      | ok x =>
        rcases ih vs with ⟨f, hf⟩ | ⟨a, ha⟩
        · exact .inl ⟨f, List.mem_cons_of_mem _ hf⟩
        · rw [ha]
          exact .inr ⟨(x, a), rfl⟩

namespace Overload

variable {M : Type} (o : Overload M) (name : ExpandedName) (ns : Namespaces) (args : List Sequence)

/-- The conversions of the arguments, each by itself. -/
def transforms : List (Except ConversionError NativeValue) :=
  (o.inputs.zip args).map fun p => p.1.receive p.2 ns

/-- The conversions in turn, each with an error that names its argument. -/
theorem receiveAll_eq_mapM : o.receiveAll name ns args =
    (o.transforms ns args).zipIdx.mapM fun s => s.1.mapError fun e =>
      e.toError.inContext (place name args.length ++ " argument " ++ toString (s.2 + 1)) := by
  rw [transforms, List.zipIdx_map, List.mapM_map]
  rfl

variable {o name ns args}

/-- The first argument that is rejected is blamed. -/
theorem receiveAll_of_firstFailure {k : Nat} {f : ConversionError}
    (h : FirstFailure (o.transforms ns args) k f) : o.receiveAll name ns args =
      .error (f.toError.inContext
        (place name args.length ++ " argument " ++ toString (k + 1))) := by
  have hfirst := mapM_zipIdx_of_firstFailure (fun k (e : ConversionError) => e.toError.inContext
    (place name args.length ++ " argument " ++ toString (k + 1))) 0 h
  rw [Nat.zero_add] at hfirst
  rw [receiveAll_eq_mapM, hfirst]

theorem receiveAll_of_ok {vs : List NativeValue} (h : o.transforms ns args = vs.map .ok) :
    o.receiveAll name ns args = .ok vs := by
  rw [receiveAll_eq_mapM, h]
  exact mapM_zipIdx_of_ok (fun k (e : ConversionError) => e.toError.inContext
    (place name args.length ++ " argument " ++ toString (k + 1))) 0 vs

end Overload

/-! ### Counted runs -/

section Counted

variable {M : Type}

/-- The function counts how often its body runs. -/
def NativeFunction.counted (f : NativeFunction M) : NativeFunction (M × Nat) where
  parameters := f.parameters
  result := f.result
  isMethod := f.isMethod
  body a state := (f.body a state.1).map id fun next => (next, state.2 + 1)

def Overload.counted (o : Overload M) : Overload (M × Nat) :=
  ⟨o.arity, o.native.counted, o.inputs, o.output⟩

/-- The callable counts how often it runs the body of a native function. -/
def Callable.counted (c : Callable M) : Callable (M × Nat) where
  identity := c.identity
  moduleName := c.moduleName
  argumentTypes := c.argumentTypes
  resultTypes := c.resultTypes
  minArity := c.minArity
  maxArity := c.maxArity
  hasSideEffects := c.hasSideEffects
  dispatch := c.dispatch.map .counted

theorem Callable.overload?_counted (c : Callable M) (n : Nat) :
    c.counted.overload? n = (c.overload? n).map .counted := by
  have harities : c.counted.arities = c.arities := by
    simp [arities, counted, Overload.counted, Function.comp_def]
  have hlength : c.counted.dispatch.length = c.dispatch.length := List.length_map _
  rw [overload?, overload?, harities, hlength, Option.map_bind]
  congr 1
  funext i
  exact List.getElem?_map

/-! Without the count, what is left of a counted run is the run. -/

variable (ns : Namespaces) (args : List Sequence) (s : M × Nat)

theorem NativeFunction.call_counted (f : NativeFunction M) (vs : List NativeValue) :
    (f.counted.call vs s).map id Prod.fst = f.call vs s.1 := by
  have hread : HostType.readArguments f.counted.parameters vs =
      HostType.readArguments f.parameters vs := rfl
  unfold call
  rw [hread]
  cases HostType.readArguments f.parameters vs <;> rfl

theorem Overload.call_counted (o : Overload M) (name : ExpandedName) :
    (o.counted.call name ns args s).map id Prod.fst = o.call name ns args s.1 := by
  have hreceive : o.counted.receiveAll name ns args = o.receiveAll name ns args := rfl
  unfold call
  rw [hreceive]
  cases o.receiveAll name ns args with
  | error e => rfl
  | ok vs =>
    have hnative : o.counted.native = o.native.counted := rfl
    have houtput : o.counted.output = o.output := rfl
    simp only [hnative, houtput]
    rw [← o.native.call_counted s vs]
    obtain ⟨r, s'⟩ := o.native.counted.call vs s
    cases r <;> rfl

theorem Callable.invoke_counted (c : Callable M) :
    (c.counted.invoke ns args s).map id Prod.fst = c.invoke ns args s.1 := by
  unfold invoke
  rw [overload?_counted]
  cases c.overload? args.length with
  | none => rfl
  | some o => exact o.call_counted ns args s c.identity

end Counted

/-! ### Ends of runs -/

/-- The error has become another one by the context before its message. -/
structure Error.Surfaces (e err : Error) (context : String) : Prop where
  code : err.code = e.code
  source : err.source = e.source
  message : err.message = context ++ ": " ++ e.message

theorem Error.surfaces_inContext (e : Error) (context : String) :
    e.Surfaces (e.inContext context) context :=
  ⟨rfl, rfl, rfl⟩

section Runs

variable {M : Type}

/-- How a counted run that starts from a state and a count ends, by what fails first. -/
structure Overload.Ends (o : Overload M) (place : String) (ns : Namespaces) (args : List Sequence)
    (s : M) (runs : Nat) (run : Except Error Sequence × M × Nat) : Prop where
  /-- The first argument that is rejected is blamed, and the body has not run. -/
  rejected : (∃ f, .error f ∈ o.transforms ns args) → ∃ k f err,
    FirstFailure (o.transforms ns args) k f ∧
      f.toError.Surfaces err (place ++ " argument " ++ toString (k + 1)) ∧
      run = (.error err, s, runs)
  /-- Values that are no arguments are refused for the first parameter, and the body has not run. -/
  unread : ∀ vs, o.transforms ns args = vs.map .ok →
    (∃ f, .error f ∈ HostType.readings o.native.parameters vs) → ∃ k f err,
      FirstFailure (HostType.readings o.native.parameters vs) k f ∧ f.toError.Surfaces err place ∧
        run = (.error err, s, runs)
  /-- The body has run and has failed. -/
  failed : ∀ vs a e s', o.transforms ns args = vs.map .ok →
    HostType.readArguments o.native.parameters vs = .ok a → o.native.body a s = (.error e, s') →
      ∃ err, e.Surfaces err place ∧ run = (.error err, s', runs + 1)
  /-- The body has run and its result is not delivered. -/
  undelivered : ∀ vs a x s' f, o.transforms ns args = vs.map .ok →
    HostType.readArguments o.native.parameters vs = .ok a → o.native.body a s = (.ok x, s') →
      o.output.deliver ns (o.native.result.toNative x) = .error f →
        ∃ err, f.toError.Surfaces err (place ++ " result") ∧ run = (.error err, s', runs + 1)
  /-- The body has run and its result is delivered. -/
  delivered : ∀ vs a x s' seq, o.transforms ns args = vs.map .ok →
    HostType.readArguments o.native.parameters vs = .ok a → o.native.body a s = (.ok x, s') →
      o.output.deliver ns (o.native.result.toNative x) = .ok seq → run = (.ok seq, s', runs + 1)
  /-- There is no other way. -/
  covered : (∃ f, .error f ∈ o.transforms ns args) ∨ ∃ vs, o.transforms ns args = vs.map .ok ∧
    ((∃ f, .error f ∈ HostType.readings o.native.parameters vs) ∨
      ∃ a, HostType.readArguments o.native.parameters vs = .ok a)

/-- A native function does not run on values that are no arguments. -/
theorem NativeFunction.call_counted_of_error {f : NativeFunction M} {vs : List NativeValue}
    {e : ArgumentError} (he : HostType.readArguments f.parameters vs = .error e) (s : M × Nat) :
    f.counted.call vs s = (.error e.toError, s) := by
  have hread : HostType.readArguments f.counted.parameters vs = .error e := he
  rw [call, hread]

/-- A native function whose arguments are read runs once. -/
theorem NativeFunction.call_counted_of_ok {f : NativeFunction M} {vs : List NativeValue}
    {a : HostType.Arguments f.parameters} {s s' : M} {r : Except Error f.result.Value}
    (ha : HostType.readArguments f.parameters vs = .ok a) (hbody : f.body a s = (r, s'))
    (runs : Nat) : f.counted.call vs (s, runs) = (r.map f.result.toNative, s', runs + 1) := by
  have hread : HostType.readArguments f.counted.parameters vs = .ok a := ha
  have hcounted : f.counted.body a (s, runs) = (r, s', runs + 1) := by
    change (f.body a s).map id (fun next => (next, runs + 1)) = _
    rw [hbody]
    rfl
  rw [call, hread]
  simp only
  rw [hcounted]
  rfl

theorem Overload.ends_of_call (o : Overload M) (name : ExpandedName) (ns : Namespaces)
    (args : List Sequence) (s : M) (runs : Nat) :
    o.Ends (place name args.length) ns args s runs (o.counted.call name ns args (s, runs)) := by
  have hreceive : o.counted.receiveAll name ns args = o.receiveAll name ns args := rfl
  have hnative : o.counted.native = o.native.counted := rfl
  have houtput : o.counted.output = o.output := rfl
  constructor
  case rejected =>
    intro hrejected
    obtain ⟨k, f, hk⟩ := exists_firstFailure hrejected
    refine ⟨k, f, _, hk, f.toError.surfaces_inContext _, ?_⟩
    rw [call, hreceive, receiveAll_of_firstFailure hk]
  case unread =>
    intro vs hvs hunread
    obtain ⟨k, f, hk⟩ := exists_firstFailure hunread
    refine ⟨k, f, _, hk, f.toError.surfaces_inContext _, ?_⟩
    rw [call, hreceive, receiveAll_of_ok hvs]
    simp only [hnative,
      NativeFunction.call_counted_of_error (HostType.readArguments_of_firstFailure hk)]
  case failed =>
    intro vs a e s' hvs ha hbody
    refine ⟨_, e.surfaces_inContext _, ?_⟩
    rw [call, hreceive, receiveAll_of_ok hvs]
    simp only [hnative, NativeFunction.call_counted_of_ok ha hbody, Except.map]
  case undelivered =>
    intro vs a x s' f hvs ha hbody hf
    refine ⟨_, f.toError.surfaces_inContext _, ?_⟩
    rw [call, hreceive, receiveAll_of_ok hvs]
    simp only [hnative, houtput, NativeFunction.call_counted_of_ok ha hbody, Except.map, hf]
    rfl
  case delivered =>
    intro vs a x s' seq hvs ha hbody hseq
    rw [call, hreceive, receiveAll_of_ok hvs]
    simp only [hnative, houtput, NativeFunction.call_counted_of_ok ha hbody, Except.map, hseq]
    rfl
  case covered =>
    rcases exists_error_or_eq_map_ok (o.transforms ns args) with hrejected | ⟨vs, hvs⟩
    · exact .inl hrejected
    · exact .inr ⟨vs, hvs, HostType.exists_error_or_readArguments o.native.parameters vs⟩

/-- A call with a number of arguments that has an overload ends by what fails first in it: by the
first argument that is rejected, by the first parameter that cannot be read, by the body or by the
conversion of the result. The error is that of what fails but for the context in its message, and
the body runs, once, only if all arguments are converted and read. -/
theorem Callable.ends_of_invoke (c : Callable M) {o : Overload M} {args : List Sequence}
    (h : c.overload? args.length = some o) (ns : Namespaces) (s : M) (runs : Nat) :
    o.Ends (c.identity.text ++ "#" ++ toString args.length) ns args s runs
        (c.counted.invoke ns args (s, runs)) ∧
      (c.counted.invoke ns args (s, runs)).map id Prod.fst = c.invoke ns args s := by
  refine ⟨?_, c.invoke_counted ns args (s, runs)⟩
  rw [invoke, overload?_counted, h]
  exact o.ends_of_call c.identity ns args s runs

/-- A function that sets its state to the first argument if the second allows it. -/
def Overload.guarded : Overload Bool :=
  let boolean : Slot :=
    ⟨(SequenceType.infer (HostType.base .bool).describe none .builtin).toOption.getD .empty,
      (HostType.base .bool).describe⟩
  ⟨2, .ofMethod [.base .bool, .base .bool] (.base .bool) fun (value, allowed, ()) s =>
      if allowed then (.ok s, value) else (.error ⟨⟨none, "refused"⟩, "not allowed", none⟩, s),
    [boolean, boolean], boolean⟩

def Callable.guarded : Callable Bool where
  identity := ⟨none, "set"⟩
  moduleName := "states"
  argumentTypes := Overload.guarded.inputs.map (·.type)
  resultTypes := [some Overload.guarded.output.type]
  minArity := 2
  maxArity := 2
  hasSideEffects := true
  dispatch := [.guarded]

theorem Callable.ends_of_invoke_guarded : ∃ (f : ConversionError) (err : Error),
    f.toError.Surfaces err "set#2 argument 1" ∧
      guarded.counted.invoke .builtin [[], []] (true, 0) = (.error err, true, 0) ∧
      guarded.invoke .builtin [[], []] true = (.error err, true) := by
  have hoverload : guarded.overload? ([[], []] : List Sequence).length = some .guarded := by
    simp [overload?, searchBetween, arities, guarded, Overload.guarded]
  obtain ⟨f, rest, htransforms⟩ : ∃ f rest,
      Overload.guarded.transforms .builtin [[], []] = .error f :: rest := ⟨_, _, rfl⟩
  obtain ⟨hends, hrun⟩ := ends_of_invoke guarded hoverload .builtin true 0
  have hrejected : .error f ∈ Overload.guarded.transforms .builtin [[], []] := by
    rw [htransforms]
    exact List.mem_cons_self
  obtain ⟨k, f', err, hk, hsurfaces, hcounted⟩ := hends.rejected ⟨f, hrejected⟩
  cases k with
  | zero =>
    refine ⟨f', err, hsurfaces, hcounted, ?_⟩
    rw [← hrun, hcounted]
    rfl
  | succ k =>
    rw [htransforms] at hk
    obtain ⟨⟨a, ha⟩, -⟩ := firstFailure_cons_succ_iff.1 hk
    cases ha

end Runs

end XPathExtension
