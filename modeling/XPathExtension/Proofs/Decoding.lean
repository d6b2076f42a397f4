import XPathExtension.Native.Passage
import XPathExtension.Proofs.Transparency

/-!
Reading back. Values of types made of lists and options, nested to any depth, are read back from
their native values, as long as no option stands right around a type that has an absent value of its
own: its absent value and that of the option would be the same native value.
-/

namespace XPathExtension

/-! ### Passages of host types -/

namespace HostType

theorem passage_toNative (t : HostType) (x : t.Value) :
    t.passage.toNative x = .ok (t.toNative x) := by
  induction t with
  | base t => rfl
  | unit => rfl
  | list t ih =>
    have hvs : List.mapM t.passage.toNative x = .ok (List.map t.toNative x) := by
      rw [Outcome.mapM_eq_ok_iff, List.forall₂_map_right_iff, List.forall₂_same]
      exact fun y _ => ih y
    change NativeValue.sequence <$> List.mapM t.passage.toNative x = _
    rw [hvs]
    rfl
  | option t ih =>
    cases x with
    | none => rfl
    | some y => exact ih y

theorem passage_fromNative (t : HostType) : t.passage.fromNative = t.fromNative := by
  induction t with
  | base t => rfl
  | unit =>
    funext v
    cases v <;> rfl
  | list t ih =>
    funext v
    change t.passage.list.fromNative v = _
    cases v <;> simp only [Passage.list, fromNative, ih]
  | option t ih =>
    funext v
    change t.passage.option.fromNative v = _
    cases v <;> simp only [Passage.option, fromNative, ih]

end HostType

/-! ### Nested types -/

namespace Passage

/-- The passages of types in which no option stands right around a type with an absent value; the
flag says whether the type itself has one. Enumerations read what they write. -/
inductive Decodable : {α : Type} → Passage α → (absence : Bool) → Prop
  | base (t : BaseType) : Decodable (.base t) (!t.isValueType)
  | enumeration {α : Type} {name : String} {display : α → String} {ofText? : String → Option α}
      (h : ∀ x, ofText? (display x) = some x) : Decodable (.enumeration name display ofText?) false
  | list {α : Type} {p : Passage α} {absence : Bool} (h : Decodable p absence) :
      Decodable p.list false
  | option {α : Type} {p : Passage α} (h : Decodable p false) : Decodable p.option true
  | unit : Decodable .unit false

/-- The native value of a value, which is absent only if the type has an absent value. -/
structure Passes {α : Type} (p : Passage α) (absence : Bool) (x : α) (v : NativeValue) : Prop where
  toNative : p.toNative x = .ok v
  fromNative : p.fromNative v = .ok x
  present : absence = false → v ≠ .null

theorem passes_base (t : BaseType) (x : t.Value) :
    (base t).Passes (!t.isValueType) x (t.toNative x) := by
  refine ⟨rfl, t.fromNative_toNative x, fun hvalue => ?_⟩
  cases t with
  | reference n => cases hvalue
  | _ => exact BaseType.toNative_ne_null rfl

variable {α : Type} {p : Passage α}

theorem passes_list {absence : Bool} (h : ∀ x, ∃ v, p.Passes absence x v) (xs : List α) :
    ∃ v, p.list.Passes false xs v := by
  have hxs : ∀ x ∈ xs, ∃ v, p.Passes absence x v := fun x _ => h x
  obtain ⟨vs, hvs⟩ := Outcome.exists_forall₂ hxs
  have hto : xs.mapM p.toNative = .ok vs :=
    Outcome.mapM_eq_ok_iff.2 (hvs.imp fun _ _ h => h.toNative)
  refine ⟨.sequence vs, ?_, ?_, by simp⟩
  · exact Outcome.map_eq_ok_iff.2 ⟨vs, hto, rfl⟩
  · exact Outcome.mapM_eq_ok_iff.2 (hvs.flip.imp fun _ _ h => h.fromNative)

theorem fromNative_option {v : NativeValue} (h : v ≠ .null) :
    p.option.fromNative v = some <$> p.fromNative v := by
  cases v with
  | null => exact absurd rfl h
  | _ =>
    simp only [option]
    cases p.fromNative _ <;> rfl

theorem passes_option (h : ∀ x, ∃ v, p.Passes false x v) (x : Option α) :
    ∃ v, p.option.Passes true x v := by
  cases x with
  | none => exact ⟨.null, rfl, rfl, by simp⟩
  | some x =>
    obtain ⟨v, hv⟩ := h x
    refine ⟨v, hv.toNative, ?_, by simp⟩
    rw [fromNative_option (hv.present rfl), hv.fromNative]
    rfl

theorem Decodable.passes {absence : Bool} (h : p.Decodable absence) :
    ∀ x, ∃ v, p.Passes absence x v := by
  induction h with
  | base t => exact fun x => ⟨_, passes_base t x⟩
  | enumeration h =>
    intro x
    refine ⟨_, rfl, ?_, by simp⟩
    simp [Passage.enumeration, NativeValue.toText, h, bind, Except.bind]
  | list _ ih => exact passes_list ih
  | option _ ih => exact passes_option ih
  | unit => exact fun x => ⟨.unit, rfl, rfl, by simp⟩

end Passage

namespace HostType

/-- The type has an absent value of its own. -/
def hasAbsence : HostType → Bool
  | base t => !t.isValueType
  | option _ => true
  | list _ | unit => false

/-- No option stands right around a type with an absent value. -/
def Decodes : HostType → Prop
  | base _ | unit => True
  | list t => t.Decodes
  | option t => t.hasAbsence = false ∧ t.Decodes

theorem Decodes.decodable {t : HostType} (h : t.Decodes) : t.passage.Decodable t.hasAbsence := by
  induction t with
  | base t => exact .base t
  | unit => exact .unit
  | list t ih => exact .list (ih h)
  | option t ih =>
    obtain ⟨habsence, ht⟩ := h
    have hdecodable := ih ht
    rw [habsence] at hdecodable
    exact .option hdecodable

theorem fromNative_toNative_of_decodes {t : HostType} (h : t.Decodes) (x : t.Value) :
    t.fromNative (t.toNative x) = .ok x := by
  obtain ⟨v, hto, hfrom, -⟩ := h.decodable.passes x
  rw [passage_toNative] at hto
  obtain rfl := Except.ok.inj hto
  rwa [passage_fromNative] at hfrom

/-- A value that travels as an absent one. -/
theorem exists_null_of_hasAbsence {t : HostType} (h : t.hasAbsence = true) :
    ∃ x, t.toNative x = .null := by
  cases t with
  | base t =>
    cases t with
    | reference n => exact ⟨(none : Option String), rfl⟩
    | _ => cases h
  | option t => exact ⟨(none : Option t.Value), rfl⟩
  | list t => cases h
  | unit => cases h

theorem decodes_of_fromNative_toNative {t : HostType}
    (h : ∀ x, t.fromNative (t.toNative x) = .ok x) : t.Decodes := by
  induction t with
  | base t => trivial
  | unit => trivial
  | list t ih =>
    refine ih fun x => ?_
    have hx : List.mapM t.fromNative [t.toNative x] = .ok [x] := h [x]
    rw [Outcome.mapM_eq_ok_iff, List.forall₂_cons] at hx
    exact hx.1
  | option t ih =>
    -- the value of the element that travels as an absent one is not read back
    have hpresent (x : t.Value) : t.toNative x ≠ .null := by
      intro hnull
      have hx : (option t).fromNative (t.toNative x) = .ok (some x) := h (some x)
      rw [hnull] at hx
      cases hx
    refine ⟨?_, ih fun x => ?_⟩
    · by_contra habsence
      obtain ⟨x, hx⟩ := exists_null_of_hasAbsence (by simpa using habsence)
      exact hpresent x hx
    · have hx : (option t).fromNative (t.toNative x) = .ok (some x) := h (some x)
      rw [fromNative_option (hpresent x)] at hx
      obtain ⟨y, hy, hyx⟩ := Outcome.map_eq_ok_iff.1 hx
      rw [hy, Option.some.inj hyx]

end HostType

namespace Passage

/-- Values of nested lists and options over the base types and over enumerations that read what they
write pass to native values and are read back from them. Of the host types these are all for which
it is so. -/
theorem reads_back :
    (∀ {α : Type} (p : Passage α) (absence : Bool), p.Decodable absence →
      ∀ x, ∃ v, p.toNative x = .ok v ∧ p.fromNative v = .ok x) ∧
    ∀ t : HostType, (∀ x, t.passage.toNative x = .ok (t.toNative x)) ∧
      t.passage.fromNative = t.fromNative ∧
      (t.Decodes ↔ ∀ x, t.fromNative (t.toNative x) = .ok x) := by
  refine ⟨fun p absence h x => ?_, fun t => ⟨t.passage_toNative, t.passage_fromNative, ?_⟩⟩
  · obtain ⟨v, hv⟩ := h.passes x
    exact ⟨v, hv.toNative, hv.fromNative⟩
  · exact ⟨HostType.fromNative_toNative_of_decodes, HostType.decodes_of_fromNative_toNative⟩

/-- A switch, which is written in small letters and read in capitals as well. -/
inductive Switch where
  | on | off
deriving DecidableEq

def Switch.text : Switch → String
  | on => "on"
  | off => "off"

def Switch.ofText? (s : String) : Option Switch :=
  if s = "on" ∨ s = "ON" then some .on
  else if s = "off" ∨ s = "OFF" then some .off
  else none

def switches : Passage (List (Option (List Switch))) :=
  (enumeration "Switch" Switch.text Switch.ofText?).list.option.list

theorem reads_back_switches :
    switches.Decodable false ∧
      ∃ v, switches.toNative [some [.on, .off], none, some []] = .ok v ∧
        switches.fromNative v = .ok [some [.on, .off], none, some []] := by
  have hread (x : Switch) : Switch.ofText? x.text = some x := by
    cases x <;> decide
  have hdecodable : switches.Decodable false := .list (.option (.list (.enumeration hread)))
  exact ⟨hdecodable, reads_back.1 switches false hdecodable _⟩

end Passage

end XPathExtension
