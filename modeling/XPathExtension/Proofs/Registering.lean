import Mathlib.Data.List.Nodup
import XPathExtension.Engine
import XPathExtension.Proofs.Grouping

/-!
Registered functions. Where all registrations have different names, each name has one candidate at
most. A batch is registered module by module, the functions of each on an instance of its own, and
no call changes the registrations or the modules of the instances.
-/

namespace XPathExtension

namespace Registry

variable {α : Type} {reg : Registry α} {r : Registration α} {name : ExpandedName} {n : Nat}

@[simp] theorem registrations_foldl_register (rs : List (Registration α)) :
    (rs.foldl register reg).registrations = reg.registrations ++ rs := by
  induction rs generalizing reg with
  | nil => simp
  | cons r rs ih => simp [ih]

theorem resolve_of_unknown (h : ∀ r ∈ reg.registrations, r.name ≠ name) :
    reg.resolve name n = .error (.unknown name) := by
  have hnil : reg.candidates name = [] := by
    rw [List.eq_nil_iff_forall_not_mem]
    intro r hr
    obtain ⟨hmem, hname⟩ := (reg.mem_candidates).1 hr
    exact h r hmem hname
  rw [resolve, hnil]

theorem mem_of_resolve (h : reg.resolve name n = .ok r) :
    r ∈ reg.candidates name ∧ r.covers n = true := by
  unfold resolve at h
  split at h
  case h_1 => cases h
  case h_2 =>
    cases hr : (reg.candidates name).find? (·.covers n) with
    | none =>
      rw [hr] at h
      cases h
    | some r' =>
      rw [hr] at h
      obtain rfl := Except.ok.inj h
      exact ⟨List.mem_of_find?_eq_some hr, by simpa using List.find?_some hr⟩

theorem exists_resolve_of_covers (hr : r ∈ reg.candidates name) (hc : r.covers n = true) :
    ∃ r', reg.resolve name n = .ok r' := by
  unfold resolve
  split
  case h_1 hnil =>
    rw [hnil] at hr
    cases hr
  case h_2 =>
    cases hfind : (reg.candidates name).find? (·.covers n) with
    | none => exact absurd hc (List.find?_eq_none.1 hfind r hr)
    | some r' => exact ⟨r', rfl⟩

variable (hn : (reg.registrations.map (·.name)).Nodup) (hr : r ∈ reg.registrations)
include hn hr

/-- A registration with a name of its own is the only candidate for the name. -/
theorem candidates_eq_singleton : reg.candidates r.name = [r] := by
  rw [candidates, filter_eq_singleton_of_nodup hn hr]
  rfl

theorem resolve_of_covers (hc : r.covers n = true) : reg.resolve r.name n = .ok r := by
  rw [resolve, candidates_eq_singleton hn hr]
  simp [hc]

theorem resolve_of_not_covers (hc : r.covers n = false) :
    reg.resolve r.name n = .error (.wrongArity r.name (availableArities [r])) := by
  rw [resolve, candidates_eq_singleton hn hr]
  simp [hc]

end Registry

namespace ModuleInstance

variable {M α : Type} (i : ModuleInstance M)

@[simp] theorem source_get : i.get.2.source = i.source := by
  unfold get
  split <;> rfl

@[simp] theorem source_run (f : M → α × M) : (i.run f).2.source = i.source :=
  i.source_get

end ModuleInstance

namespace Engine

variable {M : Type} {e : Engine M} {providers : Providers}

theorem registrations_register (batch : CompiledBatch M) :
    (e.register batch providers).registry.registrations = e.registry.registrations ++
      (batch.modules.zipIdx e.instances.length).flatMap fun m => registrations m.1 m.2 := by
  unfold register
  induction batch.modules generalizing e with
  | nil => simp
  | cons m ms ih => simp [ih, addModule]

theorem instances_register (batch : CompiledBatch M) :
    (e.register batch providers).instances = e.instances ++
      batch.modules.map fun m => { source := m, providers := providers } := by
  unfold register
  induction batch.modules generalizing e with
  | nil => simp
  | cons m ms ih => simp [ih, addModule]

/-- The registrations are the same, and so are the modules of the instances. -/
structure Keeps (e e' : Engine M) : Prop where
  registry : e'.registry = e.registry
  sources : e'.instances.map (·.source) = e.instances.map (·.source)

theorem Keeps.trans {e₁ e₂ e₃ : Engine M} (h : e₁.Keeps e₂) (h' : e₂.Keeps e₃) : e₁.Keeps e₃ :=
  ⟨h'.registry.trans h.registry, h'.sources.trans h.sources⟩

theorem keeps_runAt {α : Type} {k : Nat} {i : ModuleInstance M} (hi : e.instances[k]? = some i)
    (f : M → α × M) : e.Keeps (e.runAt k i f).2 := by
  refine ⟨rfl, ?_⟩
  have hinstances : (e.runAt k i f).2.instances = e.instances.set k (i.run f).2 := rfl
  obtain ⟨hk, rfl⟩ := List.getElem?_eq_some_iff.1 hi
  have hk' : k < (e.instances.map (·.source)).length := by simpa using hk
  have hsource : e.instances[k].source = (e.instances.map (·.source))[k] := by simp
  rw [hinstances, List.map_set, ModuleInstance.source_run, hsource, List.set_getElem_self]

variable (e) (name : ExpandedName) (ns : Namespaces) (args : List Sequence)

theorem keeps_callExtension (x : Extension M) : e.Keeps (e.callExtension x ns args).2 := by
  unfold callExtension
  cases hi : e.instances[x.instanceIndex]? with
  | none => exact ⟨rfl, rfl⟩
  | some i => exact keeps_runAt hi _

theorem keeps_call (arity : Option Nat) : e.Keeps (e.call name ns args arity).2 := by
  unfold call
  split
  · exact ⟨rfl, rfl⟩
  · exact e.keeps_callExtension ns args _

theorem keeps_invoke : e.Keeps (e.invoke name ns args).2 := by
  unfold invoke
  split
  · exact ⟨rfl, rfl⟩
  · split
    · exact ⟨rfl, rfl⟩
    · exact e.keeps_callExtension ns args _

/-- The engines that calls make of an engine. -/
inductive Reaches (start : Engine M) : Engine M → Prop
  | refl : Reaches start start
  | call {e : Engine M} (h : Reaches start e) (name : ExpandedName) (ns : Namespaces)
      (args : List Sequence) (arity : Option Nat) : Reaches start (e.call name ns args arity).2
  | invoke {e : Engine M} (h : Reaches start e) (name : ExpandedName) (ns : Namespaces)
      (args : List Sequence) : Reaches start (e.invoke name ns args).2

/-- No run of calls changes the registrations or the modules of the instances. -/
theorem Reaches.keeps {start e : Engine M} (h : Reaches start e) : start.Keeps e := by
  induction h with
  | refl => exact ⟨rfl, rfl⟩
  | call h name ns args arity ih => exact ih.trans (keeps_call _ name ns args arity)
  | invoke h name ns args ih => exact ih.trans (keeps_invoke _ name ns args)

end Engine

end XPathExtension
