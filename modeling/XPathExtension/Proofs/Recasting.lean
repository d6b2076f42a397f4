import XPathExtension.Conversion.Slot
import XPathExtension.Proofs.NativeTyping
import XPathExtension.Proofs.Widening

/-!
Casts to the type that a value has already. The native value of a date has no zone, so that a date
loses its zone on the way; all other values come back as they were, floats through the wider format
as well. The result of a cast is therefore not changed by a second cast to the same type, and the
second step of a cast does not fail where the first one gave a native value.
-/

namespace XPathExtension

namespace AtomicValue

/-- The value without the zone of a date, which native dates do not have. -/
def withoutZone : AtomicValue → AtomicValue
  | date d _ => date d none
  | v => v

variable {v w : AtomicValue} {t : AtomicType} {ns : Namespaces} {n : NativeValue}

theorem withoutZone_eq_self_iff : v.withoutZone = v ↔ ∀ d o, v ≠ .date d (some o) := by
  cases v with
  | date d zone => cases zone <;> simp [withoutZone]
  | _ => simp [withoutZone]

theorem exists_native_of_type (v : AtomicValue) (ns : Namespaces) :
    ∃ n, Cast.toNative v v.type ns = .ok n ∧ ofNative v.type n = .ok v.withoutZone := by
  cases v with
  | text k s => exact ⟨.string s, rfl, rfl⟩
  | boolean b => exact ⟨.bool b, rfl, rfl⟩
  | decimal d => exact ⟨.double d, rfl, rfl⟩
  | double d => exact ⟨.double d, rfl, rfl⟩
  | float x =>
    -- the number passes through the wider format
    refine ⟨.float x, ?_, rfl⟩
    change Except.ok (NativeValue.float ((x.convert .binary64).convert .binary32)) = _
    rw [Binary.convert_convert Binary.Format.within_binary64]
  | integral k m =>
    refine ⟨.ofIntegral k m, ?_, ?_⟩
    · change NativeValue.ofIntegral k <$> Cast.toIntegral (.integral k m) k = _
      rw [Cast.toIntegral_eq_ok_iff.2 rfl]
      rfl
    · simp [ofNative, type, bind, Except.bind, withoutZone]
  | qname q => exact ⟨.qname q, rfl, rfl⟩
  | dateTime d => exact ⟨.dateTime d, rfl, rfl⟩
  | date d zone => exact ⟨.date d, rfl, rfl⟩

/-- A cast is its two steps, also to the type of all values. -/
theorem cast_of_toNative (hn : Cast.toNative v t ns = .ok n) (hw : ofNative t n = .ok w) :
    v.cast t ns = .ok w := by
  unfold cast
  split
  case isTrue ht =>
    subst ht
    obtain rfl := Except.ok.inj hn
    rw [Except.ok.inj hw]
  case isFalse => simp [hn, hw]

theorem cast_type (v : AtomicValue) (ns : Namespaces) :
    v.cast v.type ns = .ok v.withoutZone := by
  obtain ⟨n, hn, hw⟩ := exists_native_of_type v ns
  exact cast_of_toNative hn hw

/-- No native value gives a date with a zone. -/
theorem withoutZone_of_ofNative (hn : t.HasNative n) (ht : t ≠ .anyAtomic)
    (hw : ofNative t n = .ok w) : w.withoutZone = w := by
  cases hn with
  | anyAtomic => exact absurd rfl ht
  | integral k m =>
    obtain rfl : .integral k m = w := by simpa [ofNative, bind, Except.bind] using hw
    rfl
  | _ =>
    obtain rfl := Except.ok.inj hw
    rfl

/-- The two steps of a cast of a value to its own type succeed. They give the value itself exactly
if it is no date with a zone, and the same date without its zone otherwise. An item parameter or an
item result that is declared of this type passes that value on. -/
theorem cast_own_type (v : AtomicValue) (ns : Namespaces) :
    (∃ n, Cast.toNative v v.type ns = .ok n ∧ ofNative v.type n = .ok v.withoutZone) ∧
      (v.cast v.type ns = .ok v ↔ ∀ d o, v ≠ .date d (some o)) ∧
      ∀ (name : String) (present : Bool),
        Slot.receiveItem ⟨.atomic v.type, ⟨name, .item, present⟩⟩ ns (.atomic v) =
            .ok (.item (.atomic v.withoutZone)) ∧
          ∀ (o : Occurrence) (native : NativeType),
            Slot.deliverItem ⟨.typed ⟨.atomic v.type, ⟨name, .item, present⟩⟩ o, native⟩
              (.item (.atomic v)) ns = .ok (.atomic v.withoutZone) := by
  refine ⟨exists_native_of_type v ns, ?_, fun name present => ⟨?_, fun o native => ?_⟩⟩
  · rw [cast_type, Except.ok.injEq, withoutZone_eq_self_iff]
  · simp [Slot.receiveItem, ItemTest.atomicType?, Item.atomize, cast_type]
  · simp [Slot.deliverItem, SequenceType.item?, ItemTest.atomicType?, Item.atomize, cast_type]

/-- The first day of a year, on a clock one hour ahead of universal time. -/
def zonedNewYear : AtomicValue :=
  .date ⟨2024, 1, 1, by decide⟩ (some ⟨3600, by decide⟩)

/-- A date with a zone is not passed on as it was. -/
theorem cast_own_type_ne_zoned :
    zonedNewYear.type = .date ∧ zonedNewYear.cast .date .empty ≠ .ok zonedNewYear ∧
      zonedNewYear.cast .date .empty = .ok (.date ⟨2024, 1, 1, by decide⟩ none) := by
  decide

/-- A cast that gives a native value gives an atomic value. To the type of all values that is the
value itself, to any other type it is a value of this type. A second cast to the same type, under
any bindings, gives the same value again. -/
theorem recast_of_toNative (h : Cast.toNative v t ns = .ok n) :
    ∃ w, ofNative t n = .ok w ∧ v.cast t ns = .ok w ∧ (t = .anyAtomic → w = v) ∧
      (t ≠ .anyAtomic → w.type = t) ∧
      ∀ ns', w.cast t ns' = .ok w ∧
        ∃ n', Cast.toNative w t ns' = .ok n' ∧ ofNative t n' = .ok w := by
  have hnative := Cast.hasNative_toNative h
  obtain ⟨w, hw, htype⟩ := ofNative_of_hasNative hnative
  refine ⟨w, hw, cast_of_toNative h hw, ?_, htype, fun ns' => ?_⟩
  · rintro rfl
    obtain rfl := Except.ok.inj h
    exact (Except.ok.inj hw).symm
  · have hagain : ∃ n', Cast.toNative w t ns' = .ok n' ∧ ofNative t n' = .ok w := by
      by_cases ht : t = .anyAtomic
      · subst ht
        exact ⟨.item (.atomic w), rfl, rfl⟩
      · have hsame := exists_native_of_type w ns'
        rwa [withoutZone_of_ofNative hnative ht hw, htype ht] at hsame
    obtain ⟨n', hn', hw'⟩ := hagain
    exact ⟨cast_of_toNative hn' hw', n', hn', hw'⟩

/-- A text for a number that is finite in the wider format and infinite in the narrower one. -/
theorem recast_of_toNative_overflow :
    Cast.toNative (.text .untypedAtomic " 1e39 ") .float .empty = .ok (.float (.infinite false)) ∧
      ∃ w, ofNative .float (.float (.infinite false)) = .ok w ∧ w.type = .float ∧
        ∀ ns', w.cast .float ns' = .ok w := by
  have hread : (fun d : Binary64 => d.convert .binary32) <$>
      Cast.toBinary (.text .untypedAtomic " 1e39 ") .float = .ok (.infinite false) := by
    decide +kernel
  obtain ⟨d, hd, hinfinite⟩ := Outcome.map_eq_ok_iff.1 hread
  have h : Cast.toNative (.text .untypedAtomic " 1e39 ") .float .empty =
      .ok (.float (.infinite false)) :=
    Outcome.map_eq_ok_iff.2 ⟨d, hd, congrArg NativeValue.float hinfinite⟩
  obtain ⟨w, hw, -, -, htype, hagain⟩ := recast_of_toNative h
  exact ⟨h, w, hw, htype (by decide), fun ns' => (hagain ns').1⟩

end AtomicValue

end XPathExtension
