import XPathExtension.Conversion.Output
import XPathExtension.Proofs.Delivery

/-!
Flattening. What a native value is delivered as depends on its leaves alone: each leaf gives one
item, the items stand in the order of the leaves, and the first leaf that has no item gives the
error. Values with the same leaves are those that are turned into each other by grouping parts of
sequences and by putting in parts that hold nothing.
-/

namespace XPathExtension

namespace NativeValue

variable {v w : NativeValue}

/-- A present value that is no sequence. -/
def IsLeaf : NativeValue → Prop
  | unit | null | sequence _ => False
  | _ => True

mutual

theorem isLeaf_of_mem_leaves {v w : NativeValue} (h : w ∈ v.leaves) : w.IsLeaf := by
  cases v with
  | unit => cases h
  | null => cases h
  | sequence vs => exact isLeaf_of_mem_leavesAll h
  | _ =>
    obtain rfl := List.mem_singleton.1 h
    trivial

theorem isLeaf_of_mem_leavesAll {vs : List NativeValue} {w : NativeValue}
    (h : w ∈ leavesAll vs) : w.IsLeaf := by
  cases vs with
  | nil => cases h
  | cons v vs =>
    rcases List.mem_append.1 h with h | h
    · exact isLeaf_of_mem_leaves h
    · exact isLeaf_of_mem_leavesAll h

end

/-- A value that holds nothing. -/
inductive IsBlank : NativeValue → Prop
  | unit : IsBlank .unit
  | null : IsBlank .null
  | sequence : IsBlank (.sequence [])

theorem IsBlank.leaves (h : v.IsBlank) : v.leaves = [] := by
  cases h <;> rfl

/-- The values are turned into each other by grouping parts of sequences, or dissolving such groups,
and by putting in blank parts, or leaving them out, at any depth. -/
inductive Regroups : NativeValue → NativeValue → Prop
  | refl (v : NativeValue) : Regroups v v
  | symm {v w : NativeValue} (h : Regroups v w) : Regroups w v
  | trans {v w x : NativeValue} (h : Regroups v w) (h' : Regroups w x) : Regroups v x
  | inside (before after : List NativeValue) {v w : NativeValue} (h : Regroups v w) :
      Regroups (.sequence (before ++ v :: after)) (.sequence (before ++ w :: after))
  | wrap (v : NativeValue) : Regroups v (.sequence [v])
  | group (before vs after : List NativeValue) :
      Regroups (.sequence (before ++ vs ++ after)) (.sequence (before ++ .sequence vs :: after))
  | insert (before after : List NativeValue) {v : NativeValue} (h : v.IsBlank) :
      Regroups (.sequence (before ++ after)) (.sequence (before ++ v :: after))

theorem leaves_sequence (vs : List NativeValue) : (sequence vs).leaves = vs.flatMap leaves := by
  rw [leaves, leavesAll_eq_flatMap]

theorem Regroups.leaves_eq (h : v.Regroups w) : v.leaves = w.leaves := by
  induction h with
  | refl v => rfl
  | symm _ ih => exact ih.symm
  | trans _ _ ih ih' => exact ih.trans ih'
  | inside before after _ ih => simp [leaves_sequence, ih]
  | wrap v => simp [leaves_sequence]
  | group before vs after => simp [leaves_sequence]
  | insert before after h => simp [leaves_sequence, h.leaves]

mutual

/-- Every value is turned into the plain sequence of its leaves. -/
theorem regroups_leaves (v : NativeValue) : v.Regroups (.sequence v.leaves) := by
  cases v with
  | unit => exact (Regroups.wrap .unit).trans (.symm (.insert [] [] .unit))
  | null => exact (Regroups.wrap .null).trans (.symm (.insert [] [] .null))
  | sequence vs => exact regroups_leavesAll [] vs
  | _ => exact .wrap _

/-- The parts of a sequence are replaced by their leaves one after the other. -/
theorem regroups_leavesAll (done vs : List NativeValue) :
    (sequence (done ++ vs)).Regroups (.sequence (done ++ leavesAll vs)) := by
  cases vs with
  | nil => exact .refl _
  | cons v vs =>
    have hpart : (sequence (done ++ v :: vs)).Regroups (.sequence (done ++ v.leaves ++ vs)) :=
      (Regroups.inside done vs (regroups_leaves v)).trans (.symm (.group done v.leaves vs))
    have hrest := regroups_leavesAll (done ++ v.leaves) vs
    rw [List.append_assoc done v.leaves (leavesAll vs)] at hrest
    exact hpart.trans hrest

end

theorem regroups_iff : v.Regroups w ↔ v.leaves = w.leaves := by
  refine ⟨Regroups.leaves_eq, fun h => ?_⟩
  have hv := regroups_leaves v
  rw [h] at hv
  exact hv.trans (.symm (regroups_leaves w))

end NativeValue

namespace Slot

variable (s : Slot) (ns : Namespaces)

/-! ### Construction -/

mutual

/-- What is put at the end is what is delivered for the value on its own. -/
theorem push_eq (out : Sequence) (v : NativeValue) :
    s.push ns out v = (out ++ ·) <$> s.deliver ns v := by
  cases v with
  | unit => exact congrArg Except.ok (List.append_nil out).symm
  | null => exact congrArg Except.ok (List.append_nil out).symm
  | sequence vs => exact pushAll_eq out vs
  | _ =>
    simp only [push, deliver]
    cases s.deliverItem _ ns <;> rfl

theorem pushAll_eq (out : Sequence) (vs : List NativeValue) :
    s.pushAll ns out vs = (out ++ ·) <$> s.deliverAll ns vs := by
  cases vs with
  | nil => exact congrArg Except.ok (List.append_nil out).symm
  | cons v vs =>
    rw [pushAll, deliverAll, push_eq out v]
    cases s.deliver ns v with
    | error e => rfl
    | ok seq =>
      change s.pushAll ns (out ++ seq) vs = _
      rw [pushAll_eq (out ++ seq) vs]
      cases s.deliverAll ns vs with
      | error e => rfl
      | ok rest => exact congrArg Except.ok (List.append_assoc out seq rest)

end

/-! ### Leaves one by one -/

theorem deliver_of_isLeaf {v : NativeValue} (h : v.IsLeaf) :
    s.deliver ns v = List.singleton <$> s.deliverItem v ns := by
  cases v with
  | unit => exact h.elim
  | null => exact h.elim
  | sequence vs => exact h.elim
  | _ => rfl

variable {s ns}

/-- A leaf gives one item. -/
theorem deliver_leaf_eq_ok_iff {v : NativeValue} (h : v.IsLeaf) {i : Item} :
    s.deliver ns v = .ok [i] ↔ s.deliverItem v ns = .ok i := by
  rw [deliver_of_isLeaf s ns h, Outcome.map_eq_ok_iff]
  constructor
  · rintro ⟨j, hj, heq⟩
    obtain rfl := (List.cons.inj heq).1
    exact hj
  · intro hi
    exact ⟨i, hi, rfl⟩

theorem deliver_leaf_eq_error_iff {v : NativeValue} (h : v.IsLeaf) {e : ConversionError} :
    s.deliver ns v = .error e ↔ s.deliverItem v ns = .error e := by
  rw [deliver_of_isLeaf s ns h, Outcome.map_eq_error_iff]

theorem flatten_mapM_deliver {ls : List NativeValue} (h : ∀ l ∈ ls, l.IsLeaf) :
    List.flatten <$> ls.mapM (s.deliver ns) = ls.mapM fun l => s.deliverItem l ns := by
  induction ls with
  | nil => rfl
  | cons l ls ih =>
    obtain ⟨hl, hls⟩ := List.forall_mem_cons.1 h
    rw [List.mapM_cons, List.mapM_cons, ← ih hls, deliver_of_isLeaf s ns hl]
    cases s.deliverItem l ns with
    | error e => rfl
    | ok i => cases ls.mapM (s.deliver ns) <;> rfl

/-- Each leaf gives its own item, in the order of the leaves. -/
theorem deliver_eq_ok_iff {v : NativeValue} {seq : Sequence} :
    s.deliver ns v = .ok seq ↔
      List.Forall₂ (fun leaf i => s.deliver ns leaf = .ok [i]) v.leaves seq := by
  rw [deliver_eq_mapM_leaves, Outcome.mapM_eq_ok_iff]
  have hleaf : ∀ leaf ∈ v.leaves, ∀ i,
      s.deliverItem leaf ns = .ok i ↔ s.deliver ns leaf = .ok [i] :=
    fun leaf hmem i => (deliver_leaf_eq_ok_iff (NativeValue.isLeaf_of_mem_leaves hmem)).symm
  exact Outcome.forall₂_congr_left hleaf

/-- The error is that of the first leaf that has no item. -/
theorem deliver_eq_error_iff {v : NativeValue} {e : ConversionError} :
    s.deliver ns v = .error e ↔ ∃ before leaf after, v.leaves = before ++ leaf :: after ∧
      (∀ l ∈ before, ∃ i, s.deliver ns l = .ok [i]) ∧ s.deliver ns leaf = .error e := by
  rw [deliver_eq_mapM_leaves, Outcome.mapM_eq_error_iff]
  constructor
  · rintro ⟨before, leaf, after, is, hleaves, hbefore, he⟩
    have hleaf {l : NativeValue} (hl : l ∈ before ++ leaf :: after) : l.IsLeaf :=
      NativeValue.isLeaf_of_mem_leaves (hleaves ▸ hl)
    refine ⟨before, leaf, after, hleaves, fun l hl => ?_, ?_⟩
    · obtain ⟨i, -, hi⟩ := Outcome.exists_of_mem_left (Outcome.mapM_eq_ok_iff.1 hbefore) hl
      exact ⟨i, (deliver_leaf_eq_ok_iff (hleaf (by simp [hl]))).2 hi⟩
    · exact (deliver_leaf_eq_error_iff (hleaf (by simp))).2 he
  · rintro ⟨before, leaf, after, hleaves, hbefore, he⟩
    have hleaf {l : NativeValue} (hl : l ∈ before ++ leaf :: after) : l.IsLeaf :=
      NativeValue.isLeaf_of_mem_leaves (hleaves ▸ hl)
    obtain ⟨is, his⟩ := Outcome.exists_forall₂ hbefore
    refine ⟨before, leaf, after, is, hleaves, ?_, ?_⟩
    · refine Outcome.mapM_eq_ok_iff.2 ((Outcome.forall₂_congr_left fun l hl i => ?_).1 his)
      exact deliver_leaf_eq_ok_iff (hleaf (by simp [hl]))
    · exact (deliver_leaf_eq_error_iff (hleaf (by simp))).1 he

/-- What is delivered for a native value is what is delivered for its leaves one after the other,
one item for each leaf, or the error of the first leaf that fails; in a sequence under construction
it comes after what is there. It is the same for all values with these leaves, however they are
grouped. -/
theorem deliver_of_leaves (s : Slot) (ns : Namespaces) (v : NativeValue) :
    (∀ leaf ∈ v.leaves, leaf.IsLeaf) ∧
      (∀ out, s.push ns out v = (out ++ ·) <$> s.deliver ns v) ∧
      s.deliver ns v = List.flatten <$> v.leaves.mapM (s.deliver ns) ∧
      (∀ seq, s.deliver ns v = .ok seq ↔
        List.Forall₂ (fun leaf i => s.deliver ns leaf = .ok [i]) v.leaves seq) ∧
      (∀ e, s.deliver ns v = .error e ↔ ∃ before leaf after, v.leaves = before ++ leaf :: after ∧
        (∀ l ∈ before, ∃ i, s.deliver ns l = .ok [i]) ∧ s.deliver ns leaf = .error e) ∧
      ∀ w, (v.Regroups w ↔ v.leaves = w.leaves) ∧
        (v.leaves = w.leaves → s.deliver ns w = s.deliver ns v) := by
  have hleaves : ∀ leaf ∈ v.leaves, leaf.IsLeaf := fun leaf => NativeValue.isLeaf_of_mem_leaves
  refine ⟨hleaves, fun out => push_eq s ns out v, ?_, fun seq => deliver_eq_ok_iff,
    fun e => deliver_eq_error_iff, fun w => ⟨NativeValue.regroups_iff, fun h => ?_⟩⟩
  · rw [flatten_mapM_deliver hleaves, deliver_eq_mapM_leaves]
  · rw [deliver_eq_mapM_leaves, deliver_eq_mapM_leaves, h]

/-- The place of strings that are declared integers. -/
def numerals : Slot :=
  ⟨.typed ⟨.atomic (.integral .int), BaseType.describe .string⟩ .zeroOrMore,
    (HostType.list (.base .string)).describe⟩

/-- However the values are grouped, the first text that is no integer is blamed. -/
theorem deliver_of_leaves_numerals :
    let flat := NativeValue.sequence [.string "1", .string "x", .string "y"]
    let nested := NativeValue.sequence
      [.unit, .sequence [.sequence [.string "1"], .null], .sequence [], .sequence [.string "x"],
        .string "y"]
    flat.leaves = nested.leaves ∧ flat.Regroups nested ∧
      numerals.deliver .empty nested = numerals.deliver .empty flat ∧
      numerals.deliver .empty nested =
        .error (.cast (.notInLexicalSpace (.text .string "x") (.integral .int))) := by
  intro flat nested
  have hleaves : flat.leaves = nested.leaves := rfl
  have hx : numerals.deliver .empty (.string "x") =
      .error (.cast (.notInLexicalSpace (.text .string "x") (.integral .int))) := rfl
  have hone : numerals.deliver .empty (.string "1") =
      .ok [.atomic (.integral .int ⟨1, by decide⟩)] := rfl
  obtain ⟨-, -, -, -, herror, hsame⟩ := deliver_of_leaves numerals .empty flat
  obtain ⟨hregroups, hdeliver⟩ := hsame nested
  refine ⟨hleaves, hregroups.2 hleaves, hdeliver hleaves, ?_⟩
  rw [hdeliver hleaves, herror]
  exact ⟨[.string "1"], .string "x", [.string "y"], rfl, by simp [hone], hx⟩

end Slot

end XPathExtension
