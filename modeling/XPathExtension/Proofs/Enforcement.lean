import XPathExtension.Proofs.Arguments
import XPathExtension.Proofs.BinaryTexts
import XPathExtension.Proofs.IntegralCasts
import XPathExtension.Proofs.Receiving

/-!
What a declared atomic type says about the items that are received. A native atomic type decides by
itself what items are cast to, and a declaration adds the number of items only; items that stay
items are cast to the declared type. The values that can be cast to the native type can therefore be
cast to the declared one exactly where no value sets the two types apart, which is a matter of the
types alone.
-/

namespace XPathExtension

/-- The value is a text with a sign plus before another sign at its front. -/
def AtomicValue.hasTwoSigns : AtomicValue → Bool
  | text _ s =>
    match Text.trim s.toList with
    | '+' :: c :: _ => c == '+' || c == '-'
    | _ => false
  | _ => false

namespace Cast

/-- The value can be cast to the type. -/
def CastsTo (v : AtomicValue) (t : AtomicType) (ns : Namespaces) : Prop :=
  ∃ n, toNative v t ns = .ok n

instance (v : AtomicValue) (t : AtomicType) (ns : Namespaces) : Decidable (CastsTo v t ns) :=
  decidable_of_iff ((toNative v t ns).isOk = true) (by
    unfold CastsTo
    cases toNative v t ns <;> simp [Except.isOk, Except.toBool])

variable {v : AtomicValue} {t u : AtomicType} {k j : IntegralType} {d : Binary64} {m : Int}
  {ns : Namespaces}

/-! ### Numbers -/

/-- The target of a cast to a binary number is for messages. -/
theorem toBinary_eq_ok_of_target (h : toBinary v t = .ok d) (u : AtomicType) :
    toBinary v u = .ok d := by
  cases v with
  | text k s => exact toBinary_text_eq_ok_iff.2 (toBinary_text_eq_ok_iff.1 h)
  | boolean | integral | decimal | double | float => exact h
  | qname | dateTime | date => cases h

theorem castsTo_binary (ht : t = .decimal ∨ t = .double ∨ t = .float) :
    CastsTo v t ns ↔ ∃ d, toBinary v t = .ok d := by
  have hmap (g : Binary64 → NativeValue) (u : AtomicType) :
      (∃ n, g <$> toBinary v u = .ok n) ↔ ∃ d, toBinary v u = .ok d := by
    cases toBinary v u <;> simp
  rcases ht with rfl | rfl | rfl <;> exact hmap _ _

theorem toInteger_eq_ok_of_target (h : toInteger v k = .ok m) (j : IntegralType) :
    toInteger v j = .ok m := by
  have hbinary {b : Binary64} (hb : v.number? = some (.binary b)) : toInteger v j = .ok m := by
    cases hn : b.truncate? with
    | none =>
      rw [toInteger_of_truncate?_none hb hn] at h
      cases h
    | some n =>
      rw [toInteger_of_truncate?_some hb hn] at h ⊢
      split at h
      case isTrue hlt => rw [if_pos hlt, h]
      case isFalse => cases h
  cases v with
  | text _ s => exact toInteger_text_eq_ok_iff.2 (toInteger_text_eq_ok_iff.1 h)
  | boolean | integral => exact h
  | decimal | double | float => exact hbinary rfl
  | qname | dateTime | date => cases h

theorem castsTo_integral : CastsTo v (.integral k) ns ↔
    ∃ m, toInteger v k = .ok m ∧ k.InRange m := by
  simp only [CastsTo, toNative_integral_eq_ok_iff]
  constructor
  · rintro ⟨n, m, hm, hrange, -⟩
    exact ⟨m, hm, hrange⟩
  · rintro ⟨m, hm, hrange⟩
    exact ⟨_, m, hm, hrange, (NativeValue.isWord_iff hrange).2 rfl⟩

theorem exists_spells_of_spellsInteger {cs : List Char} (h : SpellsInteger cs m) :
    ∃ n, Numeral.Spells cs n := by
  have hsign {sign ds : List Char} {negative : Bool} (hs : Numeral.SpellsSign sign negative)
      (hne : ds ≠ []) (hd : Text.AreDigits ds) : ∃ n, Numeral.Spells (sign ++ ds) n := by
    have hspells := Numeral.Spells.integer hs hne hd .none
    rw [List.append_nil] at hspells
    exact ⟨_, hspells⟩
  cases h with
  | unsigned hne hd => exact hsign .none hne hd
  | plus hne hd => exact hsign .plus hne hd
  | minus hne hd => exact hsign .minus hne hd

/-- An integer is a number as well. -/
theorem exists_toBinary_of_toInteger (hv : v.hasTwoSigns = false) (h : toInteger v k = .ok m)
    (t : AtomicType) : ∃ d, toBinary v t = .ok d := by
  cases v with
  | boolean | integral | decimal | double | float => exact ⟨_, rfl⟩
  | qname | dateTime | date => cases h
  | text l s =>
    have hnumber {cs : List Char} (hcs : Text.trim s.toList = cs) (hspells : SpellsInteger cs m) :
        ∃ d, toBinary (.text l s) t = .ok d := by
      obtain ⟨n, hn⟩ := exists_spells_of_spellsInteger hspells
      exact ⟨_, toBinary_text_eq_ok_iff.2 ⟨cs, Text.trim_eq_iff.1 hcs, .numeral hn⟩⟩
    obtain ⟨-, hspells | ⟨r, hcs, hspells⟩⟩ :=
      readInteger?_eq_some_iff.1 (toInteger_text_eq_ok_iff.1 h)
    · exact hnumber rfl hspells
    · cases hspells with
      | unsigned hne hd => exact hnumber hcs (.plus hne hd)
      | plus hne hd => simp [AtomicValue.hasTwoSigns, hcs] at hv
      | minus hne hd => simp [AtomicValue.hasTwoSigns, hcs] at hv

end Cast

/-! ### Types that enforce types -/

namespace AtomicType

/-- What can be cast to the type `a` can be cast to the other one. All values have a text, a binary
number is one for every binary type, an integer is one for the types that have its range, and it is
a binary number. -/
def enforces (a : AtomicType) : AtomicType → Bool
  | anyAtomic | text _ => true
  | decimal | double | float => a.isNumeric
  | integral j =>
    match a with
    | integral k => decide (j.least ≤ k.least ∧ k.greatest ≤ j.greatest)
    | _ => false
  | t => a == t

/-- A value that sets a type apart from the types that it does not enforce. -/
def separating : (a d : AtomicType) → AtomicValue
  | anyAtomic, _ | text _, _ => .text .string ""
  | boolean, qname => .boolean true
  | boolean, _ => .text .string "true"
  | decimal, _ | double, _ | float, _ => .text .string "1.5"
  | integral k, integral j =>
    .integral k (if j.least ≤ k.least then ⟨k.greatest, by cases k <;> decide⟩
      else ⟨k.least, by cases k <;> decide⟩)
  | integral _, _ => .text .string "2"
  | qname, _ => .text .string "a"
  | dateTime, _ => .text .string "2020-01-01T00:00:00Z"
  | date, _ => .text .string "2020-01-01"

open Cast (CastsTo)

variable {a d : AtomicType} {v : AtomicValue} {ns : Namespaces}

theorem castsTo_separating (h : a.enforces d = false) :
    CastsTo (a.separating d) a .empty ∧ ¬ CastsTo (a.separating d) d .empty ∧
      (a.separating d).hasTwoSigns = false := by
  have hall : ∀ a ∈ all, ∀ d ∈ all, a.enforces d = false →
      CastsTo (a.separating d) a .empty ∧ ¬ CastsTo (a.separating d) d .empty ∧
        (a.separating d).hasTwoSigns = false := by
    decide +kernel
  exact hall a a.mem_all d d.mem_all h

theorem exists_toBinary_of_isNumeric (h : a.isNumeric = true) (hv : v.hasTwoSigns = false)
    (ha : CastsTo v a ns) (t : AtomicType) : ∃ x, Cast.toBinary v t = .ok x := by
  cases a with
  | integral k =>
    obtain ⟨m, hm, -⟩ := Cast.castsTo_integral.1 ha
    exact Cast.exists_toBinary_of_toInteger hv hm t
  | decimal | double | float =>
    obtain ⟨x, hx⟩ := (Cast.castsTo_binary (by simp)).1 ha
    exact ⟨x, Cast.toBinary_eq_ok_of_target hx t⟩
  | _ => cases h

/-- A type that enforces another one sets no value apart from it. -/
theorem castsTo_of_enforces (h : a.enforces d = true) (hv : v.hasTwoSigns = false)
    (ha : CastsTo v a ns) : CastsTo v d ns := by
  cases d with
  | anyAtomic | text => exact ⟨_, rfl⟩
  | decimal | double | float =>
    exact (Cast.castsTo_binary (by simp)).2 (exists_toBinary_of_isNumeric h hv ha _)
  | integral j =>
    cases a with
    | integral k =>
      obtain ⟨hleast, hgreatest⟩ : j.least ≤ k.least ∧ k.greatest ≤ j.greatest := by
        simpa [enforces] using h
      obtain ⟨m, hm, hlow, hhigh⟩ := Cast.castsTo_integral.1 ha
      exact Cast.castsTo_integral.2 ⟨m, Cast.toInteger_eq_ok_of_target hm j,
        hleast.trans hlow, hhigh.trans hgreatest⟩
    | _ => cases h
  | boolean | qname | dateTime | date =>
    obtain rfl := eq_of_beq h
    exact ha

end AtomicType

/-! ### Parameters -/

namespace Slot

open Cast (CastsTo)

variable {native : NativeType} {type : SequenceType} {a d : AtomicType} {arg : Sequence}
  {ns bindings : Namespaces}

theorem receiveItem_atomic {t : ItemType} (ht : t.native.shape = .atomic a) (i : Item) :
    (∃ u, receiveItem t ns i = .ok u) ↔ CastsTo i.atomize a ns := by
  simp [receiveItem, ht, CastsTo]

theorem castsTo_of_receiveItem {t : ItemType} (ht : t.native.shape = .item)
    (hd : t.test.atomicType? = some d) {i : Item} {u : NativeValue}
    (h : receiveItem t ns i = .ok u) : CastsTo i.atomize d ns := by
  simp only [receiveItem, ht, hd] at h
  obtain ⟨w, hw, -⟩ := Outcome.map_eq_ok_iff.1 h
  unfold AtomicValue.cast at hw
  split at hw
  case isTrue heq =>
    subst heq
    exact ⟨_, rfl⟩
  case isFalse =>
    obtain ⟨n, hn, -⟩ := Outcome.bind_eq_ok_iff.1 hw
    exact ⟨n, Outcome.mapError_eq_ok_iff.1 hn⟩

theorem isUnit_of_shape (h : native.innermost.shape ≠ .unit) : native.isUnit = false := by
  cases native with
  | single e => simpa [NativeType.isUnit, NativeType.innermost] using h
  | array => rfl
  | nullable => rfl

/-- A type that was declared atomic, with the native type of one item. -/
theorem exists_typed_of_infer {text : String}
    (hi : SequenceType.infer native (some text) bindings = .ok type)
    (hd : type.item?.bind (·.test.atomicType?) = some d) :
    ∃ test o, type = .typed ⟨test, native.innermost⟩ o ∧ test.atomicType? = some d := by
  obtain ⟨e, he, declaration, -, hdeclared⟩ := SequenceType.infer_some_eq_ok_iff.1 hi
  cases declaration with
  | empty =>
    obtain ⟨-, rfl⟩ := SequenceType.ofDeclaration_empty_eq_ok_iff.1 hdeclared
    cases hd
  | typed item o =>
    obtain ⟨test, -, -, rfl⟩ := SequenceType.ofDeclaration_typed_eq_ok_iff.1 hdeclared
    rw [NativeType.innermost_of_elementType he]
    exact ⟨test, o, rfl, hd⟩

section Declared

variable {text : String} (hi : SequenceType.infer native (some text) bindings = .ok type)
  (hd : type.item?.bind (·.test.atomicType?) = some d)
include hi hd

theorem exists_receive_iff_castsTo (ha : native.innermost.shape = .atomic a) :
    (∃ v, receive ⟨type, native⟩ arg ns = .ok v) ↔
      type.acceptsLength arg.length = true ∧ ∀ i ∈ arg, CastsTo i.atomize a ns := by
  have hunit : native.isUnit = false := isUnit_of_shape (by simp [ha])
  obtain ⟨test, o, rfl, -⟩ := exists_typed_of_infer hi hd
  rw [exists_receive_iff hunit (SequenceType.carries_of_infer hi)]
  refine and_congr_right fun _ => forall₂_congr fun i _ => ?_
  rw [← receiveItem_atomic (t := ⟨test, native.innermost⟩) ha]
  simp [SequenceType.item?]

theorem castsTo_of_receive_item (hitem : native.innermost.shape = .item) {v : NativeValue}
    (h : receive ⟨type, native⟩ arg ns = .ok v) : ∀ i ∈ arg, CastsTo i.atomize d ns := by
  have hunit : native.isUnit = false := isUnit_of_shape (by simp [hitem])
  obtain ⟨test, o, rfl, htest⟩ := exists_typed_of_infer hi hd
  obtain ⟨-, hitems⟩ :=
    (exists_receive_iff hunit (SequenceType.carries_of_infer hi)).1 ⟨v, h⟩
  intro i hmem
  obtain ⟨u, t, ht, hu⟩ := hitems i hmem
  obtain rfl := Option.some.inj ht
  exact castsTo_of_receiveItem hitem htest hu

/-- An item of a value that sets the two types apart is received, as one item is always enough. -/
theorem exists_receive_separating (ha : native.innermost.shape = .atomic a)
    (h : a.enforces d = false) :
    ∃ v, receive ⟨type, native⟩ [.atomic (a.separating d)] .empty = .ok v := by
  obtain ⟨hcasts, -, -⟩ := AtomicType.castsTo_separating h
  refine (exists_receive_iff_castsTo hi hd ha).2 ⟨?_, ?_⟩
  · obtain ⟨test, o, rfl, -⟩ := exists_typed_of_infer hi hd
    exact o.accepts_one
  · intro i hmem
    obtain rfl := List.mem_singleton.1 hmem
    exact hcasts

end Declared

/-- Arguments where an atomic type is declared. For a native atomic type exactly those arguments are
received whose number of items the declaration accepts and whose items can be cast to the native
type. That all their items, apart from texts with two signs, can be cast to the declared type as
well holds exactly if the native type enforces the declared one. Items that stay items are cast to
the declared type. -/
theorem castsTo_of_receive (native : NativeType) (text : String) (bindings : Namespaces)
    (hi : SequenceType.infer native (some text) bindings = .ok type)
    (hd : type.item?.bind (·.test.atomicType?) = some d) :
    (∀ a, native.innermost.shape = .atomic a →
      (∀ arg ns, (∃ v, receive ⟨type, native⟩ arg ns = .ok v) ↔
        type.acceptsLength arg.length = true ∧ ∀ i ∈ arg, CastsTo i.atomize a ns) ∧
      ((∀ arg ns v, receive ⟨type, native⟩ arg ns = .ok v →
          ∀ i ∈ arg, i.atomize.hasTwoSigns = false → CastsTo i.atomize d ns) ↔
        a.enforces d = true)) ∧
    (native.innermost.shape = .item → ∀ arg ns v, receive ⟨type, native⟩ arg ns = .ok v →
      ∀ i ∈ arg, CastsTo i.atomize d ns) := by
  refine ⟨fun a ha => ⟨fun arg ns => exists_receive_iff_castsTo hi hd ha, ?_⟩,
    fun hitem arg ns v h => castsTo_of_receive_item hi hd hitem h⟩
  constructor
  · intro hall
    by_contra hnot
    have hnot : a.enforces d = false := by simpa using hnot
    obtain ⟨v, hv⟩ := exists_receive_separating hi hd ha hnot
    obtain ⟨-, hfails, hsigns⟩ := AtomicType.castsTo_separating hnot
    exact hfails (hall _ _ v hv _ List.mem_cons_self hsigns)
  · intro henforces arg ns v hv i hmem hsigns
    obtain ⟨-, hitems⟩ := (exists_receive_iff_castsTo hi hd ha).1 ⟨v, hv⟩
    exact AtomicType.castsTo_of_enforces henforces hsigns (hitems i hmem)

/-- A parameter for bytes that is declared an integer takes only what can be cast to an integer. -/
theorem castsTo_of_receive_bytes :
    ∃ type, SequenceType.infer (Wrapping.wrap .bare (.integer .u8)).describe (some "xs:integer")
        .builtin = .ok type ∧
      type.item?.bind (·.test.atomicType?) = some (.integral .integer) ∧
      ∀ arg ns v, receive ⟨type, (Wrapping.wrap .bare (.integer .u8)).describe⟩ arg ns = .ok v →
        ∀ i ∈ arg, i.atomize.hasTwoSigns = false →
          CastsTo i.atomize (.integral .integer) ns := by
  have hi : SequenceType.infer (Wrapping.wrap .bare (.integer .u8)).describe (some "xs:integer")
      .builtin = .ok (.typed ⟨.atomic (.integral .integer), BaseType.describe (.integer .u8)⟩
        .one) := by
    decide +kernel
  exact ⟨_, hi, rfl, (((castsTo_of_receive _ _ _ hi rfl).1 _ rfl).2).2 (by decide)⟩

/-- A parameter for texts takes one that cannot be cast to the declared type. -/
theorem receive_text_declared_int :
    ∃ type v, SequenceType.infer (Wrapping.wrap .bare .string).describe (some "xs:int") .builtin =
        .ok type ∧
      type.item?.bind (·.test.atomicType?) = some (.integral .int) ∧
      receive ⟨type, (Wrapping.wrap .bare .string).describe⟩ [.atomic (.text .string "abc")]
        .empty = .ok v ∧
      ¬ CastsTo (.text .string "abc") (.integral .int) .empty := by
  have hi : SequenceType.infer (Wrapping.wrap .bare .string).describe (some "xs:int") .builtin =
      .ok (.typed ⟨.atomic (.integral .int), BaseType.describe .string⟩ .one) := by
    decide +kernel
  exact ⟨_, .string "abc", hi, rfl, rfl, by decide +kernel⟩

end Slot

end XPathExtension
