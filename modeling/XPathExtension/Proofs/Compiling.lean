import XPathExtension.Batch

/-!
What compilation grants. In a batch that has been accepted all functions have different names, since
a name that has been provided before is a clash and clashes fail every batch.
-/

namespace XPathExtension.Batch

variable {M : Type} {options : LoadOptions}

def NoClash (ds : List Diagnostic) : Prop := ∀ d ∈ ds, ∀ owner, d.finding ≠ .clash owner

theorem subset_foldl_claim (moduleName : String) (names : List ExpandedName)
    (ds : List Diagnostic) (provided : Provided) :
    ds ⊆ (names.foldl (claim moduleName) (ds, provided)).1 := by
  induction names generalizing ds provided with
  | nil => simp
  | cons n names ih =>
    rw [List.foldl_cons]
    refine List.Subset.trans ?_ (ih (claim moduleName (ds, provided) n).1 _)
    unfold claim
    split <;> simp

/-- Without a clash the names of a module are new and differ, and all of them are recorded. -/
theorem foldl_claim_of_noClash {moduleName : String} {names : List ExpandedName}
    {ds : List Diagnostic} {provided : Provided}
    (h : NoClash (names.foldl (claim moduleName) (ds, provided)).1)
    (hp : (provided.map (·.1)).Nodup) :
    ((names.foldl (claim moduleName) (ds, provided)).2.map (·.1)) = provided.map (·.1) ++ names ∧
      (provided.map (·.1) ++ names).Nodup := by
  induction names generalizing provided with
  | nil => simpa using hp
  | cons n names ih =>
    rw [List.foldl_cons] at h ⊢
    have hnew : provided.lookup n = none := by
      cases hl : provided.lookup n with
      | none => rfl
      | some owner =>
        -- the clash is kept to the end
        have hclash : claim moduleName (ds, provided) n =
            (ds ++ [⟨moduleName, n.text, .clash owner⟩], provided) := by
          simp [claim, hl]
        rw [hclash] at h
        exact absurd rfl (h ⟨moduleName, n.text, .clash owner⟩
          (subset_foldl_claim _ _ _ _ (by simp)) owner)
    have hclaim : claim moduleName (ds, provided) n =
        (ds, provided ++ [(n, moduleName)]) := by
      simp [claim, hnew]
    have hn : n ∉ provided.map (·.1) := by
      rw [List.lookup_eq_none_iff] at hnew
      intro hmem
      obtain ⟨p, hp, rfl⟩ := List.mem_map.1 hmem
      simpa using hnew p hp
    rw [hclaim] at h ⊢
    have hnodup : ((provided ++ [(n, moduleName)]).map (·.1)).Nodup := by
      rw [List.map_append, List.nodup_append]
      refine ⟨hp, by simp, ?_⟩
      rintro a ha b hb rfl
      obtain rfl : a = n := by simpa using hb
      exact hn ha
    have hrest := ih h hnodup
    simpa using hrest

theorem nodup_of_noClash {provided : Provided} {ms : List (Module M)}
    (h : NoClash (diagnosticsFrom provided ms)) (hp : (provided.map (·.1)).Nodup) :
    (provided.map (·.1) ++ ms.flatMap Module.identities).Nodup := by
  induction ms generalizing provided with
  | nil => simpa using hp
  | cons m ms ih =>
    simp only [diagnosticsFrom] at h
    have hclashes : NoClash (m.identities.foldl (claim m.name) ([], provided)).1 :=
      fun d hd => h d (by simp [hd])
    have hrest : NoClash (diagnosticsFrom
        (m.identities.foldl (claim m.name) ([], provided)).2 ms) :=
      fun d hd => h d (by simp [hd])
    obtain ⟨hnames, hnodup⟩ := foldl_claim_of_noClash hclashes hp
    have htail := ih hrest (hnames ▸ hnodup)
    rwa [hnames, List.append_assoc] at htail

/-- An accepted batch has the modules that were to be compiled, and all their functions have
different names. -/
theorem of_compile {batch : List (Module M)} {compiled : CompiledBatch M}
    (h : compile batch options = .ok compiled) :
    compiled.modules = batch ∧ (batch.flatMap Module.identities).Nodup := by
  unfold compile at h
  cases hf : (diagnostics batch).find? (isFatal options) with
  | some d => simp [hf] at h
  | none =>
    simp only [hf, Except.ok.injEq] at h
    subst h
    refine ⟨rfl, ?_⟩
    have hclash : NoClash (diagnosticsFrom [] batch) := by
      intro d hd owner hclash
      have hfatal := List.find?_eq_none.1 hf d hd
      simp [isFatal, hclash, Finding.severity] at hfatal
    simpa using nodup_of_noClash hclash (by simp)

end XPathExtension.Batch
