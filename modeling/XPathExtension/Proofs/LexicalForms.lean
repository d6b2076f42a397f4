import XPathExtension.Conversion.Cast
import XPathExtension.Proofs.CalendarTexts
import XPathExtension.Proofs.CharacterClasses
import XPathExtension.Proofs.IntegerTexts
import XPathExtension.Proofs.NativeTyping
import XPathExtension.Proofs.Numerals

/-!
Lexical forms are read back. Casting the lexical form of a value, taken as a string, to the type of
the value gives what casting the value itself gives: numbers are written with all the digits that
tell them from others, moments with all their parts, names with the prefix that stands for their
namespace.
-/

namespace XPathExtension

open Text (IsUnblank)

/-! ### Names -/

namespace Name

/-- No blank is a character of names. -/
theorem isBlank_of_isPart {c : Char} (h : isPart c = true) : Text.isBlank c = false := by
  rw [Bool.eq_false_iff]
  intro hblank
  obtain ⟨halphabetic, hnumeral⟩ := Text.not_isAlphabetic_and_not_isNumeral_of_isBlank hblank
  rw [isPart, halphabetic, hnumeral] at h
  simp only [Bool.false_or, Bool.or_eq_true, beq_iff_eq, or_assoc] at h
  rcases h with rfl | rfl | rfl <;> exact absurd hblank (by decide)

theorem isPart_of_isNCName {cs : List Char} (h : isNCName cs = true) :
    ∀ c ∈ cs, isPart c = true := by
  cases cs with
  | nil => exact fun c hc => absurd hc List.not_mem_nil
  | cons c r =>
    rw [isNCName, Bool.and_eq_true] at h
    refine List.forall_mem_cons.2 ⟨?_, List.all_eq_true.1 h.2⟩
    have hstart := h.1
    rw [isStart, Bool.or_eq_true] at hstart
    rcases hstart with hletter | hunderscore
    · simp [isPart, hletter]
    · simp [isPart, hunderscore]

theorem isUnblank_of_isNCName {cs : List Char} (h : isNCName cs = true) : IsUnblank cs :=
  fun c hc => isBlank_of_isPart (isPart_of_isNCName h c hc)

theorem ne_colon_of_isNCName {cs : List Char} (h : isNCName cs = true) :
    ∀ c ∈ cs, decide (c ≠ ':') = true := by
  intro c hc
  have hpart := isPart_of_isNCName h c hc
  have hcolon : isPart ':' = false := by decide +kernel
  refine decide_eq_true fun heq => ?_
  rw [heq, hcolon] at hpart
  cases hpart

theorem splitPrefix_of_isNCName {cs : List Char} (h : isNCName cs = true) :
    splitPrefix cs = (none, cs) := by
  have hdrop : cs.dropWhile (· ≠ ':') = [] := by
    rw [← List.append_nil cs, List.dropWhile_append_of_pos (ne_colon_of_isNCName h)]
    rfl
  rw [splitPrefix, hdrop]

theorem splitPrefix_append {cs : List Char} (h : isNCName cs = true) (r : List Char) :
    splitPrefix (cs ++ ':' :: r) = (some cs, r) := by
  have hne := ne_colon_of_isNCName h
  have hdrop : (cs ++ ':' :: r).dropWhile (· ≠ ':') = ':' :: r := by
    rw [List.dropWhile_append_of_pos hne]
    exact List.dropWhile_cons_of_neg (by simp)
  have htake : (cs ++ ':' :: r).takeWhile (· ≠ ':') = cs := by
    rw [List.takeWhile_append_of_pos hne, List.takeWhile_cons_of_neg (by simp), List.append_nil]
  rw [splitPrefix, hdrop, htake]

end Name

/-- The name is made of names without a colon, and its prefix, if it has one, is bound to its
namespace. Without a prefix it is in no namespace. -/
def QName.Resolves (q : QName) (ns : Namespaces) : Prop :=
  Name.isNCName q.localName.toList = true ∧
    ((q.nsPrefix = none ∧ q.ns = none) ∨
      ∃ p u, q.nsPrefix = some p ∧ q.ns = some u ∧ p ≠ "" ∧ Name.isNCName p.toList = true ∧
        ns.resolve? p = some u)

theorem Cast.readQName_lexical {q : QName} {ns : Namespaces} (h : q.Resolves ns) :
    readQName ns q.lexical = .ok q := by
  obtain ⟨nsPrefix, localName, uri⟩ := q
  obtain ⟨hlocal, ⟨hwritten, huri⟩ | ⟨p, u, hwritten, huri, hne, hp, hbound⟩⟩ := h
  · dsimp only at hlocal hwritten huri
    subst hwritten huri
    have htrim : Text.trim localName.toList = localName.toList :=
      (Name.isUnblank_of_isNCName hlocal).trim
    rw [QName.lexical, readQName]
    dsimp only
    rw [htrim, Name.readQualified?, Name.splitPrefix_of_isNCName hlocal]
    simp [hlocal]
  · dsimp only at hlocal hwritten huri
    subst hwritten huri
    have htext : (p ++ ":" ++ localName).toList = p.toList ++ ':' :: localName.toList := by
      simp
    have hcolon : Text.isBlank ':' = false := by decide
    have hunblank : IsUnblank (p.toList ++ ':' :: localName.toList) :=
      Text.isUnblank_append.2 ⟨Name.isUnblank_of_isNCName hp,
        Text.isUnblank_cons.2 ⟨hcolon, Name.isUnblank_of_isNCName hlocal⟩⟩
    rw [QName.lexical, readQName]
    dsimp only
    rw [if_neg hne, htext, hunblank.trim, Name.readQualified?, Name.splitPrefix_append hp]
    simp [hlocal, hp, hbound]

/-! ### Values -/

/-- The lexical form of the value says all of it: moments and dates with years of four digits and
offsets of whole minutes, names that resolve, and all other values. -/
def AtomicValue.IsPlain (ns : Namespaces) : AtomicValue → Prop
  | qname q => q.Resolves ns
  | dateTime d => (0 ≤ d.date.year ∧ d.date.year ≤ 9999) ∧ d.offset.IsWholeMinutes
  | date d zone => (0 ≤ d.year ∧ d.year ≤ 9999) ∧ ∀ o ∈ zone, o.IsWholeMinutes
  | _ => True

namespace Cast

theorem toBinary_text (d : Binary64) (t : AtomicType) :
    toBinary (.text .string d.text) t = .ok d := by
  have htrim : Text.trim d.text.toList = d.text.toList := (Binary.isUnblank_text d).trim
  simp [toBinary, AtomicValue.number?, AtomicValue.trimmed?, htrim, Binary.ofText?_text]

theorem toBoolean_text (b : Bool) : toBoolean (.text .string (boolText b)) = .ok b := by
  cases b <;> decide

theorem toIntegral_of_toInteger {v : AtomicValue} {t : IntegralType} {n : t.Value}
    (h : toInteger v t = .ok n.val) : toIntegral v t = .ok n :=
  toIntegral_eq_ok_iff.2 h

theorem toInteger_text {t : IntegralType} (n : t.Value) :
    toInteger (.text .string (toString n.val)) t = .ok n.val := by
  have hspells := spellsInteger_toString n.val
  have hread : readInteger? (Text.trim (toString n.val).toList) = some n.val := by
    rw [hspells.isUnblank.trim, readInteger?_eq_some_iff]
    exact ⟨isWide_of_inRange n.property, .inl hspells⟩
  simp only [toInteger, AtomicValue.number?, AtomicValue.trimmed?, hread]

theorem toDateTime_text {d : DateTime} (hyear : 0 ≤ d.date.year ∧ d.date.year ≤ 9999)
    (hoffset : d.offset.IsWholeMinutes) :
    toDateTime (.text .string (String.ofList d.text)) = .ok d := by
  have htrim : Text.trim d.text = d.text := d.isUnblank_text.trim
  simp [toDateTime, AtomicValue.trimmed?, htrim, DateTime.readDateTime?_text hyear hoffset]

theorem toDate_text {a : Date} {zone : Option Offset} (hyear : 0 ≤ a.year ∧ a.year ≤ 9999)
    (hzone : ∀ o ∈ zone, o.IsWholeMinutes) :
    toDate (.text .string (String.ofList (a.text ++ Date.zoneText zone))) = .ok a := by
  have hunblank : IsUnblank (a.text ++ Date.zoneText zone) :=
    Text.isUnblank_append.2 ⟨a.isUnblank_text, Date.isUnblank_zoneText zone⟩
  simp [toDate, AtomicValue.trimmed?, hunblank.trim, Date.readDate?_text hyear hzone]

/-- A leap second with a fraction, on a clock eight hours behind universal time. -/
def leapSecond : DateTime :=
  ⟨⟨1990, 12, 31, by decide⟩, ⟨15, 59, 59, 1123456789, by decide⟩, ⟨-28800, by decide⟩, by decide⟩

end Cast

end XPathExtension
