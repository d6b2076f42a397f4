import XPathExtension.Proofs.IntegerTexts
import XPathExtension.Proofs.Numerals
import XPathExtension.Proofs.Outcome
import XPathExtension.Proofs.Reading

/-!
Texts of binary numbers. What is read as a number is a numeral, or one of four names of infinities
and of NaN. A numeral has digits, at most one point before, between or after them, a sign or none in
front, and may end with a power of ten. No other name is read, however it is spelled: the only
letters of a numeral are those that mark the power.
-/

namespace XPathExtension

open Text (AreDigits EndsDigits digitsValue)

namespace Numeral

/-! ### Spellings -/

/-- A sign as written, if there is one. -/
inductive SpellsSign : List Char → Bool → Prop
  | none : SpellsSign [] false
  | plus : SpellsSign ['+'] false
  | minus : SpellsSign ['-'] true

/-- A power of ten as written: nothing, or a mark and an integer. -/
inductive SpellsPower : List Char → Int → Prop
  | none : SpellsPower [] 0
  | marked {c : Char} {sign ds : List Char} {negative : Bool} (hc : c = 'e' ∨ c = 'E')
      (hs : SpellsSign sign negative) (hne : ds ≠ []) (hd : AreDigits ds) :
      SpellsPower (c :: (sign ++ ds)) (if negative then -(digitsValue ds : Int) else digitsValue ds)

/-- A numeral as written: a sign, digits with one point among them or none, and a power. There is at
least one digit. -/
inductive Spells : List Char → Numeral → Prop
  | integer {sign whole power : List Char} {negative : Bool} {p : Int}
      (hs : SpellsSign sign negative) (hne : whole ≠ []) (hw : AreDigits whole)
      (hp : SpellsPower power p) :
      Spells (sign ++ (whole ++ power)) ⟨negative, whole, [], p⟩
  | pointed {sign whole fraction power : List Char} {negative : Bool} {p : Int}
      (hs : SpellsSign sign negative) (hne : ¬ (whole = [] ∧ fraction = [])) (hw : AreDigits whole)
      (hf : AreDigits fraction) (hp : SpellsPower power p) :
      Spells (sign ++ (whole ++ '.' :: (fraction ++ power))) ⟨negative, whole, fraction, p⟩

variable {cs r sg ws fs : List Char} {negative : Bool} {n : Numeral} {p : Int}

/-- The text does not begin with a sign. -/
def Unsigned (cs : List Char) : Prop := ∀ c ∈ cs.head?, c ≠ '+' ∧ c ≠ '-'

theorem spellsSign_sign (cs : List Char) :
    ∃ sg, SpellsSign sg (sign cs).1 ∧ cs = sg ++ (sign cs).2 := by
  unfold sign
  split
  case h_1 => exact ⟨_, .minus, rfl⟩
  case h_2 => exact ⟨_, .plus, rfl⟩
  case h_3 => exact ⟨_, .none, rfl⟩

theorem sign_of_spells (hs : SpellsSign sg negative) (hr : Unsigned r) :
    sign (sg ++ r) = (negative, r) := by
  cases hs with
  | plus => rfl
  | minus => rfl
  | none =>
    change sign r = _
    unfold sign
    split
    case h_1 => exact absurd rfl (hr '-' rfl).2
    case h_2 => exact absurd rfl (hr '+' rfl).1
    case h_3 => rfl

theorem unsigned_digits {ds : List Char} (hd : AreDigits ds) (hr : Unsigned r) :
    Unsigned (ds ++ r) := by
  cases ds with
  | nil => exact hr
  | cons d ds =>
    intro c hc
    obtain rfl := Option.some.inj hc
    have hdigit := hd d List.mem_cons_self
    constructor <;> rintro rfl <;> cases hdigit

/-! ### Powers -/

theorem SpellsPower.endsDigits (h : SpellsPower cs p) : EndsDigits cs := by
  cases h with
  | none => simp [EndsDigits]
  | marked hc => rcases hc with rfl | rfl <;> exact Text.endsDigits_cons rfl _

theorem SpellsPower.unsigned (h : SpellsPower cs p) : Unsigned cs := by
  cases h with
  | none => simp [Unsigned]
  | marked hc => rcases hc with rfl | rfl <;> simp [Unsigned]

theorem SpellsPower.head?_ne (h : SpellsPower cs p) : cs.head? ≠ some '.' := by
  cases h with
  | none => simp
  | marked hc => rcases hc with rfl | rfl <;> simp

theorem power?_eq_some_iff : power? cs = some p ↔ SpellsPower cs p := by
  constructor
  · intro h
    unfold power? at h
    split at h
    case h_1 =>
      obtain rfl := Option.some.inj h
      exact .none
    case h_2 c r =>
      obtain ⟨sg, hs, hr⟩ := spellsSign_sign r
      split at h
      case isFalse => cases h
      case isTrue hc =>
        dsimp only at h
        split at h
        case isFalse => cases h
        case isTrue hd =>
          obtain rfl := Option.some.inj h
          have hspells := SpellsPower.marked hc hs hd.1 (List.all_eq_true.1 hd.2)
          rwa [← hr] at hspells
  · intro h
    cases h with
    | none => rfl
    | @marked c sg ds negative hc hs hne hd =>
      have hsign : sign (sg ++ ds) = (negative, ds) := by
        have hds := unsigned_digits hd (r := []) (by simp [Unsigned])
        rw [List.append_nil] at hds
        exact sign_of_spells hs hds
      have hall : ds.all Char.isDigit = true := List.all_eq_true.2 hd
      rw [power?, if_pos hc, hsign]
      simp [hne, hall]

/-! ### Numerals -/

section Read

variable {w r : List Char} (hw : AreDigits w)
include hw

theorem read?_pointed_digits (hs : sign cs = (negative, w ++ '.' :: r)) :
    read? cs = if w = [] ∧ r.takeWhile Char.isDigit = [] then none
      else (power? (r.dropWhile Char.isDigit)).map fun p =>
        ⟨negative, w, r.takeWhile Char.isDigit, p⟩ := by
  have hpoint : EndsDigits ('.' :: r) := Text.endsDigits_cons rfl r
  rw [read?, hs]
  dsimp only
  rw [Text.takeWhile_digits hw hpoint, Text.dropWhile_digits hw hpoint]
  rfl

theorem read?_integer_digits (hs : sign cs = (negative, w ++ r)) (hr : EndsDigits r)
    (hpoint : r.head? ≠ some '.') :
    read? cs = if w = [] then none else (power? r).map fun p => ⟨negative, w, [], p⟩ := by
  rw [read?, hs]
  dsimp only
  rw [Text.takeWhile_digits hw hr, Text.dropWhile_digits hw hr]
  split
  case h_1 => exact absurd rfl hpoint
  case h_2 => simp only [and_true]

end Read

/-- A text is digits and a text that does not go on with one. -/
theorem exists_digits (cs : List Char) : ∃ w r, AreDigits w ∧ EndsDigits r ∧ cs = w ++ r := by
  refine ⟨cs.takeWhile Char.isDigit, cs.dropWhile Char.isDigit, fun c => List.mem_takeWhile_imp,
    fun c hc => ?_, List.takeWhile_append_dropWhile.symm⟩
  have hhead := List.head?_dropWhile_not Char.isDigit cs
  rw [hc] at hhead
  simpa using hhead

theorem spells_of_read? (h : read? cs = some n) : Spells cs n := by
  obtain ⟨sg, hs, hcs⟩ := spellsSign_sign cs
  obtain ⟨w, r, hw, hr, hdigits⟩ := exists_digits (sign cs).2
  have hsign : sign cs = ((sign cs).1, w ++ r) := by rw [← hdigits]
  rw [hdigits] at hcs
  by_cases hpoint : r.head? = some '.'
  · obtain ⟨r, rfl⟩ := List.head?_eq_some_iff.1 hpoint
    obtain ⟨f, r, hf, hr', rfl⟩ := exists_digits r
    rw [read?_pointed_digits hw hsign, Text.takeWhile_digits hf hr',
      Text.dropWhile_digits hf hr'] at h
    split at h
    case isTrue => cases h
    case isFalse hne =>
      obtain ⟨p, hp, rfl⟩ := Option.map_eq_some_iff.1 h
      have hspells := Spells.pointed hs hne hw hf (power?_eq_some_iff.1 hp)
      rwa [← hcs] at hspells
  · rw [read?_integer_digits hw hsign hr hpoint] at h
    split at h
    case isTrue => cases h
    case isFalse hne =>
      obtain ⟨p, hp, rfl⟩ := Option.map_eq_some_iff.1 h
      have hspells := Spells.integer hs hne hw (power?_eq_some_iff.1 hp)
      rwa [← hcs] at hspells

theorem read?_of_spells (h : Spells cs n) : read? cs = some n := by
  cases h with
  | integer hs hne hw hp =>
    have hsign := sign_of_spells hs (unsigned_digits hw hp.unsigned)
    rw [read?_integer_digits hw hsign hp.endsDigits hp.head?_ne, if_neg hne,
      power?_eq_some_iff.2 hp, Option.map_some]
  | @pointed sg w f es negative p hs hne hw hf hp =>
    have hpoint : Unsigned ('.' :: (f ++ es)) := by simp [Unsigned]
    have hsign := sign_of_spells hs (unsigned_digits hw hpoint)
    rw [read?_pointed_digits hw hsign, Text.takeWhile_digits hf hp.endsDigits,
      Text.dropWhile_digits hf hp.endsDigits, if_neg hne, power?_eq_some_iff.2 hp,
      Option.map_some]

/-- A text is read as a numeral if and only if it spells the numeral. -/
theorem read?_eq_some_iff : read? cs = some n ↔ Spells cs n := ⟨spells_of_read?, read?_of_spells⟩

/-! ### Letters -/

section Letters

variable {c : Char} (hletter : c.isAlpha = true)
include hletter

theorem not_mem_digits_of_isAlpha {ds : List Char} (hd : AreDigits ds) : c ∉ ds := by
  intro hmem
  have hdigit := Text.toNat_of_isDigit (hd c hmem)
  delta Char.isAlpha Char.isUpper Char.isLower at hletter
  simp only [Bool.or_eq_true, Bool.and_eq_true, decide_eq_true_eq, UInt32.le_iff_toNat_le] at hletter
  change (65 ≤ c.toNat ∧ c.toNat ≤ 90) ∨ (97 ≤ c.toNat ∧ c.toNat ≤ 122) at hletter
  omega

theorem SpellsSign.not_mem_of_isAlpha (h : SpellsSign sg negative) : c ∉ sg := by
  intro hmem
  cases h with
  | none => cases hmem
  | plus | minus =>
    obtain rfl := List.mem_singleton.1 hmem
    cases hletter

theorem SpellsPower.eq_mark (h : SpellsPower cs p) (hc : c ∈ cs) : c = 'e' ∨ c = 'E' := by
  cases h with
  | none => cases hc
  | marked hmark hs hne hd =>
    rcases List.mem_cons.1 hc with rfl | hc
    · exact hmark
    · rcases List.mem_append.1 hc with hc | hc
      · exact absurd hc (hs.not_mem_of_isAlpha hletter)
      · exact absurd hc (not_mem_digits_of_isAlpha hletter hd)

/-- The only letters of a numeral are the marks of a power. -/
theorem Spells.eq_mark (h : Spells cs n) (hc : c ∈ cs) : c = 'e' ∨ c = 'E' := by
  cases h with
  | integer hs hne hw hp =>
    simp only [List.mem_append, hs.not_mem_of_isAlpha hletter,
      not_mem_digits_of_isAlpha hletter hw, false_or] at hc
    exact hp.eq_mark hletter hc
  | pointed hs hne hw hf hp =>
    simp only [List.mem_append, List.mem_cons, hs.not_mem_of_isAlpha hletter,
      not_mem_digits_of_isAlpha hletter hw, not_mem_digits_of_isAlpha hletter hf, false_or] at hc
    rcases hc with rfl | hc
    · cases hletter
    · exact hp.eq_mark hletter hc

end Letters

end Numeral

/-! ### Names -/

namespace Binary

variable {f : Format} {cs : List Char} {d : Binary f}

/-- A number as written: a numeral, or one of the names of infinities and of NaN. -/
inductive Spells {f : Format} : List Char → Binary f → Prop
  | infinity : Spells "INF".toList (.infinite false)
  | plusInfinity : Spells "+INF".toList (.infinite false)
  | minusInfinity : Spells "-INF".toList (.infinite true)
  | nan : Spells "NaN".toList .nan
  | numeral {cs : List Char} {n : Numeral} (h : n.Spells cs) : Spells cs (n.toBinary f)

theorem spells_of_ofText? (h : ofText? f cs = some d) : Spells cs d := by
  unfold ofText? at h
  split at h
  case isTrue hinfinite =>
    obtain rfl := Option.some.inj h
    rcases hinfinite with rfl | rfl
    · exact .infinity
    · exact .plusInfinity
  split at h
  case isTrue hinfinite =>
    obtain rfl := Option.some.inj h
    subst hinfinite
    exact .minusInfinity
  split at h
  case isTrue hnan =>
    obtain rfl := Option.some.inj h
    subst hnan
    exact .nan
  obtain ⟨n, hn, rfl⟩ := Option.map_eq_some_iff.1 h
  exact .numeral (Numeral.read?_eq_some_iff.1 hn)

theorem ofText?_of_spells (h : Spells cs d) : ofText? f cs = some d := by
  cases h with
  | infinity => rfl
  | plusInfinity => rfl
  | minusInfinity => rfl
  | nan => rfl
  | numeral h =>
    have hread := Numeral.read?_eq_some_iff.2 h
    have hname (name : String) (hnone : Numeral.read? name.toList = none) : cs ≠ name.toList := by
      rintro rfl
      rw [hnone] at hread
      cases hread
    rw [ofText?, if_neg (not_or.2 ⟨hname _ rfl, hname _ rfl⟩), if_neg (hname _ rfl),
      if_neg (hname _ rfl), hread, Option.map_some]

/-- A text is read as a number if and only if it spells the number. -/
theorem ofText?_eq_some_iff : ofText? f cs = some d ↔ Spells cs d :=
  ⟨spells_of_ofText?, ofText?_of_spells⟩

/-- The names of infinities and of NaN. -/
def names : List (List Char) := ["INF", "+INF", "-INF", "NaN"].map String.toList

/-- Only names have letters that mark no power. -/
theorem Spells.mem_names (h : Spells cs d) {c : Char} (hc : c ∈ cs) (hletter : c.isAlpha = true)
    (hmark : c ≠ 'e' ∧ c ≠ 'E') : cs ∈ names := by
  cases h with
  | infinity | plusInfinity | minusInfinity | nan => simp [names]
  | numeral h => exact absurd (h.eq_mark hletter hc) (not_or.2 hmark)

end Binary

/-! ### Casts -/

namespace Cast

variable {k : TextType} {s : String} {d : Binary64} {t : AtomicType} {n : NativeValue}
  {ns : Namespaces} {e : CastError}

theorem toBinary_eq_ofText? : toBinary (.text k s) t =
    match Binary.ofText? .binary64 (Text.trim s.toList) with
    | some d => .ok d
    | none => .error (.notInLexicalSpace (.text k s) t) := rfl

theorem toBinary_text_eq_ok_iff : toBinary (.text k s) t = .ok d ↔
    ∃ cs, Text.IsTrimmed s.toList cs ∧ Binary.Spells cs d := by
  have hread : toBinary (.text k s) t = .ok d ↔
      Binary.ofText? .binary64 (Text.trim s.toList) = some d := by
    rw [toBinary_eq_ofText?]
    cases Binary.ofText? .binary64 (Text.trim s.toList) <;> simp
  rw [hread, Binary.ofText?_eq_some_iff]
  constructor
  · exact fun h => ⟨_, Text.isTrimmed_trim s.toList, h⟩
  · rintro ⟨cs, hcs, h⟩
    rwa [Text.trim_eq_iff.2 hcs]

theorem code_of_toBinary_text (h : toBinary (.text k s) t = .error e) : e.code = .forg0001 := by
  rw [toBinary_eq_ofText?] at h
  split at h
  case h_1 => cases h
  case h_2 =>
    obtain rfl := Except.error.inj h
    rfl

/-- The cast of a text to what is carried by a binary number. -/
theorem map_toBinary_text_eq_ok_iff (g : Binary64 → NativeValue) :
    g <$> toBinary (.text k s) t = .ok n ↔
      ∃ cs d, Text.IsTrimmed s.toList cs ∧ Binary.Spells cs d ∧ n = g d := by
  simp only [Outcome.map_eq_ok_iff, toBinary_text_eq_ok_iff]
  constructor
  · rintro ⟨d, ⟨cs, hcs, hd⟩, rfl⟩
    exact ⟨cs, d, hcs, hd, rfl⟩
  · rintro ⟨cs, d, hcs, hd, rfl⟩
    exact ⟨d, ⟨cs, hcs, hd⟩, rfl⟩

theorem code_of_toNative_binary_text (ht : t = .double ∨ t = .float)
    (h : toNative (.text k s) t ns = .error e) : e.code = .forg0001 := by
  rcases ht with rfl | rfl <;>
    exact code_of_toBinary_text (Outcome.map_eq_error_iff.1 h)

theorem exists_spells_of_toNative (ht : t = .double ∨ t = .float)
    (h : toNative (.text k s) t ns = .ok n) :
    ∃ cs, ∃ d : Binary64, Text.IsTrimmed s.toList cs ∧ Binary.Spells cs d := by
  rcases ht with rfl | rfl <;>
    obtain ⟨cs, d, hcs, hd, -⟩ := (map_toBinary_text_eq_ok_iff _).1 h <;>
    exact ⟨cs, d, hcs, hd⟩

end Cast

end XPathExtension
