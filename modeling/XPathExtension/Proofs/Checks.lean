import XPathExtension.Proofs.Outcome

/-!
Checks in order. An outcome is decided by a list of checks if it is the fault of the first check
that fails, and a value if none does. Steps that are decided by lists of checks are decided together
by the checks of the one step followed by those of the next.
-/

namespace XPathExtension

variable {κ φ ε α β : Type}

/-- None of the checks fails. -/
def Clear (fails : κ → φ → Prop) (checks : List κ) : Prop := ∀ c ∈ checks, ∀ x, ¬ fails c x

/-- The first of the checks that fails has the fault. -/
def FirstFault (fails : κ → φ → Prop) (checks : List κ) (x : φ) : Prop :=
  ∃ before c after, checks = before ++ c :: after ∧ Clear fails before ∧ fails c x

section Order

variable {fails : κ → φ → Prop} {c : κ} {cs ds : List κ} {x : φ}

theorem clear_cons_iff : Clear fails (c :: cs) ↔ (∀ x, ¬ fails c x) ∧ Clear fails cs :=
  List.forall_mem_cons

theorem clear_append_iff : Clear fails (cs ++ ds) ↔ Clear fails cs ∧ Clear fails ds :=
  List.forall_mem_append

theorem clear_singleton_iff : Clear fails [c] ↔ ∀ x, ¬ fails c x := by
  simp [Clear]

theorem clear_flatMap_iff {as : List α} {checks : α → List κ} :
    Clear fails (as.flatMap checks) ↔ ∀ a ∈ as, Clear fails (checks a) := by
  simp only [Clear, List.mem_flatMap]
  exact ⟨fun h a ha c hc => h c ⟨a, ha, hc⟩, fun h c ⟨a, ha, hc⟩ => h a ha c hc⟩

theorem not_firstFault_nil : ¬ FirstFault fails [] x := by
  rintro ⟨before, c, after, h, -⟩
  simp at h

theorem firstFault_cons_iff :
    FirstFault fails (c :: cs) x ↔ fails c x ∨ (∀ y, ¬ fails c y) ∧ FirstFault fails cs x := by
  constructor
  · rintro ⟨before, d, after, heq, hclear, hd⟩
    cases before with
    | nil =>
      obtain ⟨rfl, -⟩ := List.cons.inj heq
      exact .inl hd
    | cons b before =>
      obtain ⟨rfl, rfl⟩ := List.cons.inj heq
      obtain ⟨hc, hbefore⟩ := clear_cons_iff.1 hclear
      exact .inr ⟨hc, before, d, after, rfl, hbefore, hd⟩
  · rintro (hc | ⟨hc, before, d, after, rfl, hclear, hd⟩)
    · exact ⟨[], c, cs, rfl, by simp [Clear], hc⟩
    · exact ⟨c :: before, d, after, rfl, clear_cons_iff.2 ⟨hc, hclear⟩, hd⟩

theorem firstFault_append_iff :
    FirstFault fails (cs ++ ds) x ↔
      FirstFault fails cs x ∨ Clear fails cs ∧ FirstFault fails ds x := by
  induction cs with
  | nil => simp [not_firstFault_nil, Clear]
  | cons c cs ih =>
    rw [List.cons_append, firstFault_cons_iff, firstFault_cons_iff, clear_cons_iff, ih]
    tauto

/-- Of checks that do not all pass there is a first that fails. -/
theorem clear_iff : Clear fails cs ↔ ∀ x, ¬ FirstFault fails cs x := by
  induction cs with
  | nil => simp [not_firstFault_nil, Clear]
  | cons c cs ih =>
    rw [clear_cons_iff, ih]
    constructor
    · rintro ⟨hc, hcs⟩ x hx
      rcases firstFault_cons_iff.1 hx with hx | ⟨-, hx⟩
      · exact hc x hx
      · exact hcs x hx
    · intro h
      have hc (x : φ) : ¬ fails c x := fun hx => h x (firstFault_cons_iff.2 (.inl hx))
      exact ⟨hc, fun x hx => h x (firstFault_cons_iff.2 (.inr ⟨hc, hx⟩))⟩

end Order

/-- The outcome reports the first fault of the checks, and has no other error. -/
def Decides (fails : κ → φ → Prop) (report : φ → ε) (checks : List κ) (r : Except ε α) : Prop :=
  ∀ e, r = .error e ↔ ∃ x, FirstFault fails checks x ∧ e = report x

namespace Decides

variable {fails : κ → φ → Prop} {report : φ → ε} {cs ds : List κ} {r : Except ε α}
  {f : α → Except ε β}

theorem exists_ok_iff (h : Decides fails report cs r) :
    (∃ a, r = .ok a) ↔ Clear fails cs := by
  rw [clear_iff]
  constructor
  · rintro ⟨a, rfl⟩ x hx
    cases (h (report x)).2 ⟨x, hx, rfl⟩
  · intro hcs
    cases r with
    | ok a => exact ⟨a, rfl⟩
    | error e =>
      obtain ⟨x, hx, -⟩ := (h e).1 rfl
      exact absurd hx (hcs x)

theorem ok (a : α) : Decides fails report [] (.ok a : Except ε α) := by
  intro e
  simp [not_firstFault_nil]

theorem pass {c : κ} (h : ∀ x, ¬ fails c x) (a : α) :
    Decides fails report [c] (.ok a : Except ε α) := by
  intro e
  simp [firstFault_cons_iff, not_firstFault_nil, h]

theorem fail {c : κ} {x : φ} (h : ∀ y, fails c y ↔ y = x) :
    Decides fails report [c] (.error (report x) : Except ε α) := by
  intro e
  simp [firstFault_cons_iff, not_firstFault_nil, h, eq_comm]

theorem bind (h : Decides fails report cs r)
    (hf : ∀ a, r = .ok a → Decides fails report ds (f a)) :
    Decides fails report (cs ++ ds) (r >>= f) := by
  intro e
  simp only [firstFault_append_iff]
  cases hr : r with
  | error e' =>
    have hnot : ¬ Clear fails cs := fun hcs => by
      obtain ⟨a, ha⟩ := h.exists_ok_iff.2 hcs
      rw [hr] at ha
      cases ha
    simp only [hnot, false_and, or_false]
    rw [← h e, hr]
    simp
  | ok a =>
    have hcs : Clear fails cs := h.exists_ok_iff.1 ⟨a, hr⟩
    have hnone (x : φ) : ¬ FirstFault fails cs x := clear_iff.1 hcs x
    simp only [hnone, hcs, true_and, false_or]
    exact hf a hr e

theorem map (h : Decides fails report cs r) (g : α → β) :
    Decides fails report cs (r >>= fun a => .ok (g a)) := by
  have hmap := h.bind fun a _ => Decides.ok (g a)
  rwa [List.append_nil] at hmap

theorem mapM {as : List α} {checks : α → List κ}
    (h : ∀ a ∈ as, Decides fails report (checks a) (f a)) :
    Decides fails report (as.flatMap checks) (as.mapM f) := by
  induction as with
  | nil => exact .ok []
  | cons a as ih =>
    obtain ⟨ha, has⟩ := List.forall_mem_cons.1 h
    rw [List.mapM_cons, List.flatMap_cons]
    exact ha.bind fun b _ => (ih has).map (b :: ·)

end Decides

end XPathExtension
