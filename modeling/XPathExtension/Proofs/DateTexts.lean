import XPathExtension.Conversion.Cast
import XPathExtension.Proofs.CalendarTexts
import XPathExtension.Proofs.Reading

/-!
Texts of dates. What is read as a date is a text whose first ten bytes spell one and that goes on
with nothing, with `Z`, or with a sign and five bytes. Of what follows the sign nothing but its
length is looked at, so that all zones of hours and minutes are taken, and other texts of that
length as well. The reader of dates is compared with the spellings of dates, both ways.
-/

namespace XPathExtension

open Text (AreDigits EndsDigits byteCount digitsValue isBlank)

namespace Calendar

/-! ### Spellings -/

/-- A year as written: at most four digits, or a sign and any number of digits. -/
inductive SpellsYear : List Char → Int → Prop
  | unsigned {ds : List Char} (hne : ds ≠ []) (hlength : ds.length ≤ 4) (hd : AreDigits ds) :
      SpellsYear ds (digitsValue ds)
  | plus {ds : List Char} (hne : ds ≠ []) (hd : AreDigits ds) :
      SpellsYear ('+' :: ds) (digitsValue ds)
  | minus {ds : List Char} (hne : ds ≠ []) (hd : AreDigits ds) :
      SpellsYear ('-' :: ds) (-(digitsValue ds : Int))

/-- A month or a day as written: one or two digits. -/
structure SpellsNumber (ds : List Char) (n : Nat) : Prop where
  nonempty : ds ≠ []
  length : ds.length ≤ 2
  digits : AreDigits ds
  value : digitsValue ds = n

def AreBlank (cs : List Char) : Prop := ∀ c ∈ cs, isBlank c = true

/-- A date as written: year, month and day with hyphens between them, each after any number of
blanks. -/
inductive SpellsDate : List Char → Date → Prop
  | mk {a : Date} {b ys b' ms b'' ds : List Char} (hb : AreBlank b) (hy : SpellsYear ys a.year)
      (hb' : AreBlank b') (hm : SpellsNumber ms a.month) (hb'' : AreBlank b'')
      (hd : SpellsNumber ds a.day) :
      SpellsDate (b ++ (ys ++ '-' :: (b' ++ (ms ++ '-' :: (b'' ++ ds))))) a

/-- A time zone as written: nothing, `Z`, or a sign, two digits, a colon and two digits. -/
inductive IsZone : List Char → Prop
  | none : IsZone []
  | utc : IsZone ['Z']
  | offset {c : Char} {hours minutes : List Char} (hc : c = '+' ∨ c = '-')
      (hh : AreDigits hours) (hhours : hours.length = 2) (hm : AreDigits minutes)
      (hminutes : minutes.length = 2) : IsZone (c :: (hours ++ ':' :: minutes))

/-- What is taken for a time zone: nothing, `Z`, or a sign and five bytes. -/
inductive PassesForZone : List Char → Prop
  | none : PassesForZone []
  | utc : PassesForZone ['Z']
  | signed {c : Char} {r : List Char} (hc : c = '+' ∨ c = '-') (hr : byteCount r = 5) :
      PassesForZone (c :: r)

variable {cs r zone : List Char} {n most : Nat} {y : Int} {a : Date}

theorem IsZone.passes (h : IsZone zone) : PassesForZone zone := by
  cases h with
  | none => exact .none
  | utc => exact .utc
  | offset hc hh hhours hm hminutes =>
    refine .signed hc ?_
    rw [Text.byteCount_append, byteCount, hh.byteCount_eq, hm.byteCount_eq, hhours, hminutes]
    rfl

theorem isZoneText_iff : isZoneText zone = true ↔ PassesForZone zone := by
  constructor
  · intro h
    unfold isZoneText at h
    split at h
    case h_1 => exact .none
    case h_2 => exact .utc
    case h_3 c r _ =>
      simp only [Bool.and_eq_true, Bool.or_eq_true, beq_iff_eq, byteCount] at h
      obtain ⟨hc, hcount⟩ := h
      refine .signed hc ?_
      rcases hc with rfl | rfl
      · change 1 + byteCount r = 6 at hcount
        omega
      · change 1 + byteCount r = 6 at hcount
        omega
  · intro h
    cases h with
    | none => rfl
    | utc => rfl
    | signed hc hr =>
      rcases hc with rfl | rfl <;> simp [isZoneText, byteCount, hr, Char.utf8Size]

/-! ### Numbers -/

theorem char_eq_some_iff {c : Char} : char c cs = some r ↔ cs = c :: r := by
  cases cs with
  | nil => simp [char]
  | cons d ds => simp [char]

/-- Blanks in front of a text that does not begin with one are dropped. -/
theorem trimLeft_blanks {b : List Char} (hb : AreBlank b) (cs : List Char) :
    Text.trimLeft (b ++ cs) = Text.trimLeft cs :=
  List.dropWhile_append_of_pos hb

theorem exists_blanks (cs : List Char) : ∃ b, AreBlank b ∧ cs = b ++ Text.trimLeft cs :=
  ⟨cs.takeWhile isBlank, fun _ hc => List.mem_takeWhile_imp hc,
    (List.takeWhile_append_dropWhile (p := isBlank)).symm⟩

theorem digits_eq_some (h : digits cs = some (n, r)) :
    ∃ ds, cs = ds ++ r ∧ ds ≠ [] ∧ AreDigits ds ∧ digitsValue ds = n := by
  unfold digits at h
  split at h
  case h_1 => cases h
  case h_2 ds hne =>
    obtain ⟨rfl, rfl⟩ := Prod.mk.inj (Option.some.inj h)
    exact ⟨_, List.takeWhile_append_dropWhile.symm, hne, fun c hc => List.mem_takeWhile_imp hc, rfl⟩

theorem digits_append {ds : List Char} (hne : ds ≠ []) (hd : AreDigits ds) (hr : EndsDigits r) :
    digits (ds ++ r) = some (digitsValue ds, r) := by
  unfold digits
  rw [Text.takeWhile_digits hd hr, Text.dropWhile_digits hd hr]
  split
  case h_1 => contradiction
  case h_2 => rfl

theorem fewDigits_eq_some (h : fewDigits most cs = some (n, r)) :
    ∃ ds, cs = ds ++ r ∧ ds ≠ [] ∧ ds.length ≤ most ∧ AreDigits ds ∧ digitsValue ds = n := by
  unfold fewDigits at h
  split at h
  case h_1 => cases h
  case h_2 ds hne =>
    obtain ⟨rfl, rfl⟩ := Prod.mk.inj (Option.some.inj h)
    have hrun : (cs.takeWhile Char.isDigit).take most <+: cs :=
      (List.take_prefix _ _).trans (List.takeWhile_prefix _)
    refine ⟨_, ?_, hne, List.length_take_le _ _, fun c hc => ?_, rfl⟩
    · exact (List.prefix_iff_eq_append.1 hrun).symm
    · exact List.mem_takeWhile_imp (List.mem_of_mem_take hc)

theorem looseNumber_eq_some (h : looseNumber cs = some (n, r)) :
    ∃ b ds, AreBlank b ∧ SpellsNumber ds n ∧ cs = b ++ (ds ++ r) := by
  obtain ⟨b, hb, hcs⟩ := exists_blanks cs
  obtain ⟨ds, hds, hne, hlength, hd, hvalue⟩ := fewDigits_eq_some h
  exact ⟨b, ds, hb, ⟨hne, hlength, hd, hvalue⟩, hcs.trans (congrArg (b ++ ·) hds)⟩

theorem looseNumber_append {b ds : List Char} (hb : AreBlank b) (h : SpellsNumber ds n)
    (hr : EndsDigits r) : looseNumber (b ++ (ds ++ r)) = some (n, r) := by
  rw [looseNumber, trimLeft_blanks hb, trimLeft_digits h.digits h.nonempty,
    fewDigits_digits h.digits h.nonempty h.length hr, h.value]

theorem looseYear_eq_some (h : looseYear cs = some (y, r)) :
    ∃ b ys, AreBlank b ∧ SpellsYear ys y ∧ cs = b ++ (ys ++ r) := by
  obtain ⟨b, hb, hcs⟩ := exists_blanks cs
  unfold looseYear at h
  split at h
  case h_1 s heq =>
    obtain ⟨⟨n, r'⟩, hread, hpair⟩ := Option.map_eq_some_iff.1 h
    obtain ⟨rfl, rfl⟩ := Prod.mk.inj hpair
    obtain ⟨ds, rfl, hne, hd, rfl⟩ := digits_eq_some hread
    exact ⟨b, _, hb, .minus hne hd, hcs.trans (congrArg (b ++ ·) heq)⟩
  case h_2 s heq =>
    obtain ⟨⟨n, r'⟩, hread, hpair⟩ := Option.map_eq_some_iff.1 h
    obtain ⟨rfl, rfl⟩ := Prod.mk.inj hpair
    obtain ⟨ds, rfl, hne, hd, rfl⟩ := digits_eq_some hread
    exact ⟨b, _, hb, .plus hne hd, hcs.trans (congrArg (b ++ ·) heq)⟩
  case h_3 =>
    obtain ⟨⟨n, r'⟩, hread, hpair⟩ := Option.map_eq_some_iff.1 h
    obtain ⟨rfl, rfl⟩ := Prod.mk.inj hpair
    obtain ⟨ds, hds, hne, hlength, hd, rfl⟩ := fewDigits_eq_some hread
    exact ⟨b, _, hb, .unsigned hne hlength hd, hcs.trans (congrArg (b ++ ·) hds)⟩

theorem looseYear_append {b ys : List Char} (hb : AreBlank b) (h : SpellsYear ys y)
    (hr : EndsDigits r) : looseYear (b ++ (ys ++ r)) = some (y, r) := by
  rw [looseYear, trimLeft_blanks hb]
  cases h with
  | unsigned hne hlength hd =>
    rw [trimLeft_digits hd hne]
    split
    case h_1 heq => exact absurd heq (hd.append_ne_cons hne rfl _ _)
    case h_2 heq => exact absurd heq (hd.append_ne_cons hne rfl _ _)
    case h_3 => rw [fewDigits_digits hd hne hlength hr, Option.map_some]
  | plus hne hd =>
    have hsign : isBlank '+' = false := isBlank_of_mark '+' (by decide)
    rw [List.cons_append, Text.trimLeft, List.dropWhile_cons_of_neg (by simp [hsign])]
    simp [digits_append hne hd hr]
  | minus hne hd =>
    have hsign : isBlank '-' = false := isBlank_of_mark '-' (by decide)
    rw [List.cons_append, Text.trimLeft, List.dropWhile_cons_of_neg (by simp [hsign])]
    simp [digits_append hne hd hr]

/-! ### Dates -/

/-- The whole of a text is read as a date if and only if it spells the date. -/
theorem whole_looseDate_eq_some_iff : whole looseDate cs = some a ↔ SpellsDate cs a := by
  constructor
  · intro h
    unfold whole at h
    split at h
    case h_2 => cases h
    case h_1 hread =>
      obtain rfl := Option.some.inj h
      simp only [looseDate, Option.bind_eq_bind, Option.bind_eq_some_iff, Option.pure_def,
        Option.some.injEq, Prod.mk.injEq, Prod.exists, char_eq_some_iff] at hread
      obtain ⟨y, r, hyear, s, rfl, m, r, hmonth, t, rfl, d, r, hday, a, hdate, rfl, rfl⟩ := hread
      obtain ⟨b, ys, hb, hys, rfl⟩ := looseYear_eq_some hyear
      obtain ⟨b', ms, hb', hms, rfl⟩ := looseNumber_eq_some hmonth
      obtain ⟨b'', ds, hb'', hds, rfl⟩ := looseNumber_eq_some hday
      obtain ⟨rfl, rfl, rfl⟩ := Date.ofParts?_eq_some hdate
      rw [List.append_nil]
      exact .mk hb hys hb' hms hb'' hds
  · intro h
    obtain ⟨hb, hy, hb', hm, hb'', hd⟩ := h
    have hdash (r : List Char) : EndsDigits ('-' :: r) := Text.endsDigits_cons rfl r
    have hnil : EndsDigits [] := by simp [EndsDigits]
    have hday := looseNumber_append hb'' hd hnil
    rw [List.append_nil] at hday
    rw [whole, looseDate]
    simp only [looseYear_append hb hy (hdash _), looseNumber_append hb' hm (hdash _), hday,
      char_cons, Date.ofParts?_parts, Option.bind_eq_bind, Option.bind_some, Option.pure_def]

theorem splitBytes?_eq_some_iff {date : List Char} :
    Text.splitBytes? n cs = some (date, zone) ↔ cs = date ++ zone ∧ byteCount date = n := by
  constructor
  · exact Text.splitBytes?_eq_some
  · rintro ⟨rfl, rfl⟩
    exact Text.splitBytes?_append date zone

theorem readDate?_eq_some_iff : readDate? cs = some a ↔ ∃ date zone, cs = date ++ zone ∧
    byteCount date = 10 ∧ SpellsDate date a ∧ PassesForZone zone := by
  simp only [readDate?, Option.bind_eq_bind, Option.bind_eq_some_iff, Prod.exists,
    splitBytes?_eq_some_iff, and_assoc]
  refine exists_congr fun date => exists_congr fun zone => and_congr_right fun _ =>
    and_congr_right fun _ => ?_
  rw [← isZoneText_iff, ← whole_looseDate_eq_some_iff]
  by_cases h : isZoneText zone = true <;> simp [h]

end Calendar

open Calendar

namespace Cast

variable {k : TextType} {s : String} {ns : Namespaces}

theorem toDate_eq_readDate? (k : TextType) (s : String) :
    toDate (.text k s) = match readDate? (Text.trim s.toList) with
      | some d => .ok d
      | none => .error (.notInLexicalSpace (.text k s) .date) := rfl

theorem toNative_date_text_eq_ok_iff {n : NativeValue} : toNative (.text k s) .date ns = .ok n ↔
    ∃ a, readDate? (Text.trim s.toList) = some a ∧ n = .date a := by
  change NativeValue.date <$> toDate (.text k s) = .ok n ↔ _
  rw [toDate_eq_readDate?]
  cases readDate? (Text.trim s.toList) <;> simp [eq_comm]

theorem toNative_date_text_eq_error_iff {e : CastError} :
    toNative (.text k s) .date ns = .error e ↔
      readDate? (Text.trim s.toList) = none ∧ e = .notInLexicalSpace (.text k s) .date := by
  change NativeValue.date <$> toDate (.text k s) = .error e ↔ _
  rw [toDate_eq_readDate?]
  cases readDate? (Text.trim s.toList) <;> simp [eq_comm]

/-- The cast of a text to a date. It succeeds exactly if the first ten bytes of the text without the
blanks around it spell a date and the rest passes for a zone, and gives that date. A date with a
zone of hours and minutes is among these texts. All other texts are refused as no lexical form. -/
theorem toNative_date_text (k : TextType) (s : String) (ns : Namespaces) :
    (∀ n, toNative (.text k s) .date ns = .ok n ↔ ∃ date zone a,
      Text.IsTrimmed s.toList (date ++ zone) ∧ byteCount date = 10 ∧ SpellsDate date a ∧
        PassesForZone zone ∧ n = .date a) ∧
    (∀ date zone a, Text.IsTrimmed s.toList (date ++ zone) → byteCount date = 10 →
      SpellsDate date a → IsZone zone → toNative (.text k s) .date ns = .ok (.date a)) ∧
    ((∃ n, toNative (.text k s) .date ns = .ok n) ∨
      ∃ e, toNative (.text k s) .date ns = .error e ∧ e.toError.kind = .forg0001) := by
  have hok (n : NativeValue) : toNative (.text k s) .date ns = .ok n ↔ ∃ date zone a,
      Text.IsTrimmed s.toList (date ++ zone) ∧ byteCount date = 10 ∧ SpellsDate date a ∧
        PassesForZone zone ∧ n = .date a := by
    rw [toNative_date_text_eq_ok_iff]
    constructor
    · rintro ⟨a, hread, rfl⟩
      obtain ⟨date, zone, htrim, hten, ha, hzone⟩ := readDate?_eq_some_iff.1 hread
      exact ⟨date, zone, a, Text.trim_eq_iff.1 htrim, hten, ha, hzone, rfl⟩
    · rintro ⟨date, zone, a, htrim, hten, ha, hzone, rfl⟩
      have hread := readDate?_eq_some_iff.2 ⟨date, zone, rfl, hten, ha, hzone⟩
      rw [← Text.trim_eq_iff.2 htrim] at hread
      exact ⟨a, hread, rfl⟩
  refine ⟨hok, fun date zone a htrim hten ha hzone => ?_, ?_⟩
  · exact (hok _).2 ⟨date, zone, a, htrim, hten, ha, hzone.passes, rfl⟩
  · cases hout : toNative (.text k s) .date ns with
    | ok n => exact .inl ⟨n, rfl⟩
    | error e =>
      obtain ⟨-, rfl⟩ := toNative_date_text_eq_error_iff.1 hout
      exact .inr ⟨_, rfl, Error.ofCode_kind _ _⟩

/-- Letters after a sign, which are no zone, are passed over. -/
theorem toNative_date_text_letters :
    toNative (.text .string "2020-01-01+ab:cd") .date .empty =
        .ok (.date ⟨2020, 1, 1, by decide⟩) ∧
      ¬ ∃ date zone, Text.IsTrimmed "2020-01-01+ab:cd".toList (date ++ zone) ∧
        byteCount date = 10 ∧ IsZone zone := by
  refine ⟨by rfl, ?_⟩
  rintro ⟨date, zone, htrim, hten, hzone⟩
  have htext : Text.trim "2020-01-01+ab:cd".toList = "2020-01-01+ab:cd".toList := by decide
  have hsplit : Text.splitBytes? 10 "2020-01-01+ab:cd".toList =
      some ("2020-01-01".toList, ['+', 'a', 'b', ':', 'c', 'd']) := by decide
  rw [htext.symm.trans (Text.trim_eq_iff.2 htrim),
    splitBytes?_eq_some_iff.2 ⟨rfl, hten⟩] at hsplit
  obtain ⟨-, hletters⟩ := Prod.mk.inj (Option.some.inj hsplit)
  cases hzone with
  | none => cases hletters
  | utc => cases hletters
  | @offset c hours minutes hc hh hhours hm hminutes =>
    -- the hours would have to begin with a letter
    have hne : hours ≠ [] := by
      rintro rfl
      cases hhours
    exact hh.append_ne_cons hne rfl _ _ (List.cons.inj hletters).2

end Cast

end XPathExtension
