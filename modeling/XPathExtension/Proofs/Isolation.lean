import Mathlib.Data.List.Basic
import XPathExtension.Instantiation

/-!
Isolation of instances. However the calls on several instantiations of a batch are mixed, the
functions of one module of one instantiation answer as they do on an instantiation of their own that
gets no other calls. They all work on one state, which is created once, before the first call runs.
-/

namespace XPathExtension

variable {M : Type}

/-! ### Calls on one state -/

/-- Answer calls of functions that work on one state, in order. Calls of no function are skipped. -/
def Extension.serve (functions : List (Extension M)) :
    M → List FunctionCall → List (Except Error Sequence) × M
  | s, [] => ([], s)
  | s, c :: cs =>
    match functions[c.function]? with
    | none => serve functions s cs
    | some x =>
      let (r, s) := x.callable.invoke c.ns c.args s
      let (rs, s) := serve functions s cs
      (r :: rs, s)

namespace ModuleInstance

/-- Answer calls of functions that work on one instance, in order. -/
def serve (functions : List (Extension M)) :
    ModuleInstance M → List FunctionCall → List (Except Error Sequence) × ModuleInstance M
  | i, [] => ([], i)
  | i, c :: cs =>
    match functions[c.function]? with
    | none => serve functions i cs
    | some x =>
      let (r, i) := i.run (x.callable.invoke c.ns c.args)
      let (rs, i) := serve functions i cs
      (r :: rs, i)

variable {functions : List (Extension M)} {i : ModuleInstance M} {s : M}

/-- An instance that has been used goes on with its state. -/
theorem serve_initialized (cs : List FunctionCall) (h : i.state? = some s) :
    i.serve functions cs =
      ((Extension.serve functions s cs).1,
        { i with state? := some (Extension.serve functions s cs).2 }) := by
  induction cs generalizing i s with
  | nil => simp [serve, Extension.serve, ← h]
  | cons c cs ih =>
    unfold serve Extension.serve
    cases functions[c.function]? with
    | none => exact ih h
    | some x =>
      have hrun : i.run (x.callable.invoke c.ns c.args) =
          ((x.callable.invoke c.ns c.args s).1,
            { i with state? := some (x.callable.invoke c.ns c.args s).2 }) := by
        rw [run, get_initialized i s h]
      have hrest := ih (i := (i.run (x.callable.invoke c.ns c.args)).2) (by rw [hrun])
      simp only [hrun] at hrest ⊢
      simp only [hrest]

/-- The first call creates the state of an instance and makes its report. -/
theorem serve_fresh {c : FunctionCall} {cs : List FunctionCall} {x : Extension M}
    (h : i.state? = none) (hx : functions[c.function]? = some x) :
    i.serve functions (c :: cs) =
      ((Extension.serve functions i.firstState.1 (c :: cs)).1,
        { i with
          state? := some (Extension.serve functions i.firstState.1 (c :: cs)).2
          report? := i.firstState.2 }) := by
  have hrun : i.run (x.callable.invoke c.ns c.args) =
      ((x.callable.invoke c.ns c.args i.firstState.1).1,
        { i with
          state? := some (x.callable.invoke c.ns c.args i.firstState.1).2
          report? := i.firstState.2 }) := by
    simp [run, get, h]
  have hrest := @serve_initialized M functions (i.run (x.callable.invoke c.ns c.args)).2 _ cs
    (by rw [hrun])
  unfold serve Extension.serve
  simp only [hrun, hx] at hrest ⊢
  simp only [hrest]

end ModuleInstance

/-! ### Runs -/

/-- What happens to the instantiations of a batch. -/
inductive InstantiationEvent where
  | instantiate (providers : Providers)
  /-- A call of a function of the instantiation with that number. -/
  | call (number : Nat) (c : FunctionCall)

abbrev Answer := Option (Except Error Sequence)

/-- The answers to calls of the functions of one instantiation, in order. -/
def Instantiation.answers (i : Instantiation M) : List FunctionCall → List Answer
  | [] => []
  | c :: cs => (i.call c).1 :: (i.call c).2.answers cs

namespace CompiledBatch

variable (batch : CompiledBatch M)

/-- What an event makes of the instantiations so far, and the answer to a call. -/
def step (host : List (Instantiation M)) : InstantiationEvent → Answer × List (Instantiation M)
  | .instantiate providers => (none, host ++ [batch.instantiate providers])
  | .call k c =>
    match host[k]? with
    | none => (none, host)
    | some i => ((i.call c).1, host.set k (i.call c).2)

/-- The events with their answers, one after the other, and the instantiations after them. -/
def run (host : List (Instantiation M)) :
    List InstantiationEvent → List (InstantiationEvent × Answer) × List (Instantiation M)
  | [] => ([], host)
  | e :: es =>
    let (a, host) := batch.step host e
    let (log, host) := run host es
    ((e, a) :: log, host)

/-- The position of the module that the called function belongs to. -/
def moduleOf? (c : FunctionCall) : Option Nat :=
  (batch.extensions[c.function]?).map (·.instanceIndex)

/-- The call of an event, if it goes to a module of an instantiation. -/
def callTo? (k j : Nat) : InstantiationEvent → Option FunctionCall
  | .instantiate _ => none
  | .call k' c => if k' = k ∧ batch.moduleOf? c = some j then some c else none

def callsTo (k j : Nat) (es : List InstantiationEvent) : List FunctionCall :=
  es.filterMap (batch.callTo? k j)

/-- The answers to the calls that go to a module of an instantiation. -/
def answersTo (k j : Nat) (log : List (InstantiationEvent × Answer)) : List Answer :=
  (log.filter fun e => (batch.callTo? k j e.1).isSome).map (·.2)

end CompiledBatch

/-! ### One step -/

namespace Instantiation

variable {i : Instantiation M} {c : FunctionCall} {j : Nat} {x : Extension M}
  {s : ModuleInstance M}

theorem functions_call (i : Instantiation M) (c : FunctionCall) :
    (i.call c).2.functions = i.functions := by
  unfold call
  split
  · rfl
  · split <;> rfl

/-- A call leaves the instances of the other modules alone. -/
theorem instances_call_of_ne (h : (i.functions[c.function]?).map (·.instanceIndex) ≠ some j) :
    (i.call c).2.instances[j]? = i.instances[j]? := by
  cases hx : i.functions[c.function]? with
  | none => simp only [call, hx]
  | some x =>
    rw [hx] at h
    have hne : x.instanceIndex ≠ j := fun heq => h (congrArg some heq)
    cases hs : i.instances[x.instanceIndex]? with
    | none => simp only [call, hx, hs]
    | some s =>
      simp only [call, hx, hs]
      exact List.getElem?_set_ne hne

/-- A call runs on the instance of its module. -/
theorem call_eq (hx : i.functions[c.function]? = some x)
    (hs : i.instances[x.instanceIndex]? = some s) :
    i.call c = (some (s.run (x.callable.invoke c.ns c.args)).1,
      { i with instances :=
          i.instances.set x.instanceIndex (s.run (x.callable.invoke c.ns c.args)).2 }) := by
  simp [call, hx, hs]

end Instantiation

namespace CompiledBatch

/-- An instantiation of the batch, in which the module at a position has an instance. -/
structure Holds (batch : CompiledBatch M) (i : Instantiation M) (j : Nat) (s : ModuleInstance M) :
    Prop where
  functions : i.functions = batch.extensions
  instances : i.instances[j]? = some s

variable {batch : CompiledBatch M} {i : Instantiation M} {j k : Nat} {s : ModuleInstance M}
  {c : FunctionCall}

theorem Holds.call_other (h : batch.Holds i j s) (hc : batch.moduleOf? c ≠ some j) :
    batch.Holds (i.call c).2 j s := by
  refine ⟨(i.functions_call c).trans h.functions, ?_⟩
  rw [Instantiation.instances_call_of_ne (h.functions ▸ hc)]
  exact h.instances

theorem Holds.call_own (h : batch.Holds i j s) (hc : batch.moduleOf? c = some j) :
    ∃ x, batch.extensions[c.function]? = some x ∧
      (i.call c).1 = some (s.run (x.callable.invoke c.ns c.args)).1 ∧
      batch.Holds (i.call c).2 j (s.run (x.callable.invoke c.ns c.args)).2 := by
  obtain ⟨x, hx, rfl⟩ := Option.map_eq_some_iff.1 hc
  have hcall := Instantiation.call_eq (h.functions ▸ hx) h.instances
  refine ⟨x, hx, by rw [hcall], (i.functions_call c).trans h.functions, ?_⟩
  rw [hcall]
  exact List.getElem?_set_self (List.getElem?_eq_some_iff.1 h.instances).1

theorem holds_instantiate {m : Module M} (hm : batch.modules[j]? = some m)
    (providers : Providers) :
    batch.Holds (batch.instantiate providers) j { source := m, providers := providers } := by
  refine ⟨rfl, ?_⟩
  rw [instantiate, List.getElem?_map, hm]
  rfl

/-! ### Whole runs -/

/-- On an instantiation that gets calls to one module only, the functions of the module are served
on its instance. -/
theorem Holds.answers (h : batch.Holds i j s) {cs : List FunctionCall}
    (hcs : ∀ c ∈ cs, batch.moduleOf? c = some j) :
    i.answers cs = (s.serve batch.extensions cs).1.map some := by
  induction cs generalizing i s with
  | nil => rfl
  | cons c cs ih =>
    obtain ⟨hc, hcs⟩ := List.forall_mem_cons.1 hcs
    obtain ⟨x, hx, hanswer, hholds⟩ := h.call_own hc
    rw [Instantiation.answers, hanswer, ih hholds hcs]
    simp [ModuleInstance.serve, hx]

/-- An event that is no call to the module leaves its instance alone. -/
theorem Holds.step_other {host : List (Instantiation M)} (hi : host[k]? = some i)
    (h : batch.Holds i j s) {e : InstantiationEvent} (he : batch.callTo? k j e = none) :
    ∃ i', (batch.step host e).2[k]? = some i' ∧ batch.Holds i' j s := by
  obtain ⟨hk, -⟩ := List.getElem?_eq_some_iff.1 hi
  cases e with
  | instantiate providers => exact ⟨i, by rw [step, List.getElem?_append_left hk, hi], h⟩
  | call k' c =>
    cases hi' : host[k']? with
    | none => exact ⟨i, by simpa [step, hi'] using hi, h⟩
    | some i' =>
      have hstep : (batch.step host (.call k' c)).2 = host.set k' (i'.call c).2 := by
        simp [step, hi']
      rw [hstep]
      by_cases hnumber : k' = k
      · obtain rfl := hnumber
        obtain rfl := Option.some.inj (hi.symm.trans hi')
        have hmodule : batch.moduleOf? c ≠ some j := by
          intro hmodule
          simp [callTo?, hmodule] at he
        exact ⟨_, List.getElem?_set_self hk, h.call_other hmodule⟩
      · exact ⟨i, by rw [List.getElem?_set_ne hnumber, hi], h⟩

/-- A call to the module is answered by its instance. -/
theorem Holds.step_own {host : List (Instantiation M)} (hi : host[k]? = some i)
    (h : batch.Holds i j s) {e : InstantiationEvent} (he : batch.callTo? k j e = some c) :
    ∃ x i', batch.extensions[c.function]? = some x ∧
      (batch.step host e).1 = some (s.run (x.callable.invoke c.ns c.args)).1 ∧
      (batch.step host e).2[k]? = some i' ∧
      batch.Holds i' j (s.run (x.callable.invoke c.ns c.args)).2 := by
  obtain ⟨hk, -⟩ := List.getElem?_eq_some_iff.1 hi
  cases e with
  | instantiate providers => cases he
  | call k' c' =>
    obtain ⟨⟨rfl, hmodule⟩, rfl⟩ : (k' = k ∧ batch.moduleOf? c' = some j) ∧ c' = c := by
      simpa [callTo?] using he
    obtain ⟨x, hx, hanswer, hholds⟩ := h.call_own hmodule
    refine ⟨x, (i.call c').2, hx, ?_, ?_, hholds⟩
    · simp [step, hi, hanswer]
    · simp [step, hi, List.getElem?_set_self hk]

/-- Among all other events, the calls to one module of an instantiation are served on its
instance. -/
theorem Holds.run {host : List (Instantiation M)} (hi : host[k]? = some i) (h : batch.Holds i j s)
    (es : List InstantiationEvent) :
    batch.answersTo k j (batch.run host es).1 =
        (s.serve batch.extensions (batch.callsTo k j es)).1.map some ∧
      ∃ i', (batch.run host es).2[k]? = some i' ∧
        batch.Holds i' j (s.serve batch.extensions (batch.callsTo k j es)).2 := by
  -- only the instance of the module is followed; what becomes of the rest of the host is free
  induction es generalizing host i s with
  | nil => exact ⟨rfl, i, hi, h⟩
  | cons e es ih =>
    cases he : batch.callTo? k j e with
    | none =>
      obtain ⟨i', hi', h'⟩ := h.step_other hi he
      obtain ⟨hanswers, hlast⟩ := ih hi' h'
      have hcalls : batch.callsTo k j (e :: es) = batch.callsTo k j es := by
        simp [callsTo, he]
      rw [hcalls]
      refine ⟨?_, hlast⟩
      rw [← hanswers]
      simp [CompiledBatch.run, answersTo, he]
    | some c =>
      obtain ⟨x, i', hx, hanswer, hi', h'⟩ := h.step_own hi he
      obtain ⟨hanswers, hlast⟩ := ih hi' h'
      have hcalls : batch.callsTo k j (e :: es) = c :: batch.callsTo k j es := by
        simp [callsTo, he]
      rw [hcalls]
      simp only [ModuleInstance.serve, hx, List.map_cons]
      refine ⟨?_, hlast⟩
      rw [← hanswers, ← hanswer]
      simp [CompiledBatch.run, answersTo, he]

theorem moduleOf?_of_mem_callsTo {es : List InstantiationEvent} :
    ∀ c ∈ batch.callsTo k j es, batch.moduleOf? c = some j := by
  intro c hc
  obtain ⟨e, -, he⟩ := List.mem_filterMap.1 hc
  cases e with
  | instantiate providers => cases he
  | call k' c' =>
    obtain ⟨⟨-, hmodule⟩, rfl⟩ : (k' = k ∧ batch.moduleOf? c' = some j) ∧ c' = c := by
      simpa [callTo?] using he
    exact hmodule

/-- An instance is untouched before its first call and initialized from then on. -/
theorem serve_instance {cs : List FunctionCall} (hcs : ∀ c ∈ cs, batch.moduleOf? c = some j)
    (h : s.state? = none) :
    s.serve batch.extensions cs =
      ((Extension.serve batch.extensions s.firstState.1 cs).1,
        if cs = [] then s
        else { s with
          state? := some (Extension.serve batch.extensions s.firstState.1 cs).2
          report? := s.firstState.2 }) := by
  cases cs with
  | nil => rfl
  | cons c cs =>
    obtain ⟨x, hx, -⟩ := Option.map_eq_some_iff.1 (hcs c List.mem_cons_self)
    exact ModuleInstance.serve_fresh h hx

/-- Whatever happens before and in between, the calls that go to one module of an instantiation are
answered as on an instantiation with the same resources that gets these calls only. They are served
on one state in the order in which they come. The state starts as the initial state with the
resources injected, and it is not there before the first of the calls. -/
theorem answers_isolated (batch : CompiledBatch M) (host : List (Instantiation M))
    (providers : Providers) (es : List InstantiationEvent) {j : Nat} {m : Module M}
    (hm : batch.modules[j]? = some m) :
    let fresh : ModuleInstance M := { source := m, providers := providers }
    let calls := batch.callsTo host.length j es
    let served := Extension.serve batch.extensions fresh.firstState.1 calls
    let run := batch.run host (.instantiate providers :: es)
    batch.answersTo host.length j run.1 = (batch.instantiate providers).answers calls ∧
      (batch.instantiate providers).answers calls = served.1.map some ∧
      ∃ i, run.2[host.length]? = some i ∧ i.instances[j]? = some
        (if calls = [] then fresh
        else { fresh with state? := some served.2, report? := fresh.firstState.2 }) := by
  intro fresh calls served run
  have hcalls : ∀ c ∈ calls, batch.moduleOf? c = some j := moduleOf?_of_mem_callsTo
  have hholds : batch.Holds (batch.instantiate providers) j fresh := holds_instantiate hm providers
  have hserve := serve_instance hcalls (s := fresh) rfl
  have hfresh := hholds.answers hcalls
  have hplace : (host ++ [batch.instantiate providers])[host.length]? =
      some (batch.instantiate providers) := List.getElem?_concat_length
  obtain ⟨hanswers, i, hi, hlast⟩ := hholds.run hplace es
  refine ⟨?_, ?_, i, hi, ?_⟩
  · rw [hfresh, ← hanswers]
    rfl
  · rw [hfresh, hserve]
  · exact hlast.instances.trans (congrArg (fun p => some p.2) hserve)

/-- A module that remembers whether it has been visited. -/
def visits : ModuleDraft Bool where
  typeName := "Visits"
  initial := false
  name := "visits"
  functions := [
    { name := "visit", native := .ofMethod [] (.base .bool) fun _ s => (.ok s, true) },
    { name := "visited", native := .ofMethod [] (.base .bool) fun _ s => (.ok s, s) }]

theorem answers_isolated_visits :
    ∃ modules batch m, [visits].mapM ModuleDraft.build = .ok modules ∧
      Batch.compile modules {} = .ok batch ∧ batch.modules[0]? = some m ∧
      let visit : FunctionCall := ⟨0, .empty, []⟩
      let visited : FunctionCall := ⟨1, .empty, []⟩
      let host := (batch.run [] [.instantiate {}, .call 0 visit]).2
      let es : List InstantiationEvent := [.call 1 visited, .call 0 visited, .call 1 visit]
      batch.answersTo host.length 0 (batch.run host (.instantiate {} :: es)).1 =
        (batch.instantiate {}).answers (batch.callsTo host.length 0 es) := by
  have hcompile : ([visits].mapM ModuleDraft.build).toOption.any (fun modules =>
      (Batch.compile modules {}).toOption.any fun batch => batch.modules[0]?.isSome) = true := by
    decide +kernel
  cases hbuild : [visits].mapM ModuleDraft.build with
  | error e =>
    rw [hbuild] at hcompile
    cases hcompile
  | ok modules =>
    cases hbatch : Batch.compile modules {} with
    | error e => simp [hbuild, hbatch, Except.toOption] at hcompile
    | ok batch =>
      have hfirst : batch.modules[0]?.isSome = true := by
        simpa [hbuild, hbatch, Except.toOption] using hcompile
      obtain ⟨m, hm⟩ := Option.isSome_iff_exists.1 hfirst
      exact ⟨modules, batch, m, rfl, hbatch, hm, (answers_isolated batch _ {} _ hm).1⟩

end CompiledBatch

end XPathExtension
