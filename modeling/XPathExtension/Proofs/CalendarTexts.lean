import Mathlib.Tactic.SplitIfs
import XPathExtension.Calendar.Reader
import XPathExtension.Calendar.Text
import XPathExtension.Proofs.Digits

/-!
Texts of dates and moments read back. The strict reader takes back the text of a moment whose year
has four digits and whose offset is of whole minutes, leap seconds and fractions included, and the
reader of dates takes back a date with or without such an offset after it.
-/

namespace XPathExtension

open Text (AreDigits EndsDigits IsUnblank byteCount padded splitBytes?)

/-! ### Fields of digits -/

namespace Calendar

variable {n w most : Nat} {ds r : List Char}

@[simp] theorem char_cons (c : Char) (r : List Char) : char c (c :: r) = some r := by
  simp [char]

theorem exactDigits_padded (hw : 0 < w) (h : n < 10 ^ w) (r : List Char) :
    exactDigits w (padded w n ++ r) = some (n, r) := by
  have hlength := Text.length_padded hw h
  have hall : (padded w n).all Char.isDigit = true :=
    List.all_eq_true.2 (Text.areDigits_padded w n)
  unfold exactDigits
  simp [List.take_left' hlength, List.drop_left' hlength, hlength, hall]

theorem fewDigits_digits (hd : AreDigits ds) (hne : ds ≠ []) (hlength : ds.length ≤ most)
    (hr : EndsDigits r) : fewDigits most (ds ++ r) = some (Text.digitsValue ds, r) := by
  obtain ⟨c, ds, rfl⟩ := List.exists_cons_of_ne_nil hne
  unfold fewDigits
  rw [Text.takeWhile_digits hd hr, List.take_of_length_le hlength]
  dsimp only
  rw [List.drop_left]

theorem padded_ne_nil (w n : Nat) : padded w n ≠ [] := by
  simp [padded, Nat.toDigits_ne_nil]

/-- Digits stand still when blanks are dropped in front of them. -/
theorem trimLeft_digits (hd : AreDigits ds) (hne : ds ≠ []) (r : List Char) :
    Text.trimLeft (ds ++ r) = ds ++ r := by
  obtain ⟨c, ds, rfl⟩ := List.exists_cons_of_ne_nil hne
  exact List.dropWhile_cons_of_neg (by simp [hd.isUnblank c])

theorem looseNumber_padded (h : n < 100) (hr : EndsDigits r) :
    looseNumber (padded 2 n ++ r) = some (n, r) := by
  have hd := Text.areDigits_padded 2 n
  have hne := padded_ne_nil 2 n
  have hlength := Text.length_padded (w := 2) (by decide) h
  rw [looseNumber, trimLeft_digits hd hne, fewDigits_digits hd hne (by omega) hr,
    Text.digitsValue_padded]

theorem looseYear_padded (h : n < 10000) (hr : EndsDigits r) :
    looseYear (padded 4 n ++ r) = some ((n : Int), r) := by
  have hd := Text.areDigits_padded 4 n
  have hne := padded_ne_nil 4 n
  have hlength := Text.length_padded (w := 4) (by decide) h
  have hfew := fewDigits_digits hd hne (Nat.le_of_eq hlength) hr
  rw [Text.digitsValue_padded] at hfew
  rw [looseYear, trimLeft_digits hd hne]
  split
  case h_1 heq => exact absurd heq (hd.append_ne_cons hne rfl _ _)
  case h_2 heq => exact absurd heq (hd.append_ne_cons hne rfl _ _)
  case h_3 => rw [hfew, Option.map_some]

/-! ### Fractions of a second -/

variable {c : Char}

theorem fraction_padded (hw : 0 < w) (hnine : w ≤ 9) (h : n < 10 ^ w) (hr : EndsDigits r) :
    fraction ('.' :: padded w n ++ r) = some (n * 10 ^ (9 - w), r) := by
  have hd := Text.areDigits_padded w n
  have hlength := Text.length_padded hw h
  have hvalue := Text.digitsValue_padded w n
  have hne := padded_ne_nil w n
  rw [List.cons_append, fraction]
  rw [Text.takeWhile_digits hd hr, Text.dropWhile_digits hd hr]
  split
  case h_1 heq => exact absurd heq hne
  case h_2 =>
    dsimp only
    rw [List.take_of_length_le (by omega), hvalue, hlength]
    rfl

/-- Three, six or nine digits show the fraction in full. -/
theorem fraction_text (h : n < 1000000000) (hc : c.isDigit = false) (hpoint : c ≠ '.')
    (r : List Char) :
    fraction (TimeOfDay.fractionText n ++ c :: r) = some (n, c :: r) := by
  have hr := Text.endsDigits_cons hc r
  unfold TimeOfDay.fractionText
  split_ifs with hzero hmilli hmicro
  · subst hzero
    unfold fraction
    split
    case h_1 heq => exact absurd (List.cons.inj heq).1 hpoint
    case h_2 => rfl
  · rw [fraction_padded (by decide) (by decide) (by omega) hr]
    simp only [Option.some.injEq, Prod.mk.injEq, and_true]
    omega
  · rw [fraction_padded (by decide) (by decide) (by omega) hr]
    simp only [Option.some.injEq, Prod.mk.injEq, and_true]
    omega
  · rw [fraction_padded (by decide) (by decide) (by omega) hr]
    simp

end Calendar

/-! ### Dates -/

namespace Date

variable {a : Date}

theorem month_le (a : Date) : a.month ≤ 12 := by
  obtain ⟨-, -, hfirst, hlast⟩ := a.isDay
  unfold daysInMonth at hlast
  split_ifs at hlast <;> omega

theorem day_le (a : Date) : a.day ≤ 31 := by
  obtain ⟨-, -, -, hlast⟩ := a.isDay
  unfold daysInMonth at hlast
  split_ifs at hlast <;> omega

theorem text_of_year (h : 0 ≤ a.year ∧ a.year ≤ 9999) (r : List Char) :
    a.text ++ r =
      padded 4 a.year.toNat ++ '-' :: (padded 2 a.month ++ '-' :: (padded 2 a.day ++ r)) := by
  simp [text, yearText, h]

theorem strictDate_text (h : 0 ≤ a.year ∧ a.year ≤ 9999) (r : List Char) :
    Calendar.strictDate (a.text ++ r) = some (a, r) := by
  have hmonth := a.month_le
  have hday := a.day_le
  have hyear : ((a.year.toNat : Nat) : Int) = a.year := Int.toNat_of_nonneg h.1
  rw [text_of_year h, Calendar.strictDate]
  simp only [Calendar.exactDigits_padded (w := 4) (n := a.year.toNat) (by decide) (by omega),
    Calendar.exactDigits_padded (w := 2) (n := a.month) (by decide) (by omega),
    Calendar.exactDigits_padded (w := 2) (n := a.day) (by decide) (by omega), Calendar.char_cons,
    hyear, Date.ofParts?_parts, Option.bind_eq_bind, Option.bind_some, Option.pure_def]

theorem looseDate_text (h : 0 ≤ a.year ∧ a.year ≤ 9999) :
    Calendar.looseDate a.text = some (a, []) := by
  have hmonth := a.month_le
  have hday := a.day_le
  have hyear : ((a.year.toNat : Nat) : Int) = a.year := Int.toNat_of_nonneg h.1
  have hdash (r : List Char) : EndsDigits ('-' :: r) := Text.endsDigits_cons rfl r
  have hnil : EndsDigits [] := by simp [EndsDigits]
  rw [← List.append_nil a.text, text_of_year h, Calendar.looseDate]
  simp only [Calendar.looseYear_padded (n := a.year.toNat) (by omega) (hdash _),
    Calendar.looseNumber_padded (n := a.month) (by omega) (hdash _),
    Calendar.looseNumber_padded (n := a.day) (by omega) hnil, Calendar.char_cons,
    hyear, Date.ofParts?_parts, Option.bind_eq_bind, Option.bind_some, Option.pure_def]

end Date

/-! ### Times of day -/

namespace TimeOfDay

/-- A leap second, written as the 60th, is the 59th with a second more. -/
theorem ofWritten?_written (t : TimeOfDay) :
    ofWritten? t.hour t.minute
        (if 1000000000 ≤ t.nanosecond then t.second + 1 else t.second)
        (if 1000000000 ≤ t.nanosecond then t.nanosecond - 1000000000 else t.nanosecond) =
      some t := by
  obtain ⟨hour, minute, second, nanosecond, isTime⟩ := t
  have hsecond := isTime.2.2.1
  have hleap := isTime.2.2.2.2
  dsimp only
  by_cases h : 1000000000 ≤ nanosecond
  · obtain rfl := hleap h
    rw [if_pos h, if_pos h, ofWritten?, if_pos rfl, Nat.sub_add_cancel h, ofParts?, dif_pos isTime]
  · rw [if_neg h, if_neg h, ofWritten?, if_neg (Nat.ne_of_lt hsecond), ofParts?, dif_pos isTime]

theorem strictTime_text (t : TimeOfDay) {c : Char} (hc : c.isDigit = false) (hpoint : c ≠ '.')
    (r : List Char) : Calendar.strictTime (t.text ++ c :: r) = some (t, c :: r) := by
  have hwritten := t.ofWritten?_written
  obtain ⟨hhour, hminute, hsecond, hnanosecond, -⟩ := t.isTime
  have hshown : (if 1000000000 ≤ t.nanosecond then t.second + 1 else t.second) < 10 ^ 2 := by
    split_ifs <;> omega
  have hfraction : (if 1000000000 ≤ t.nanosecond then t.nanosecond - 1000000000
      else t.nanosecond) < 1000000000 := by
    split_ifs <;> omega
  unfold text
  dsimp only
  generalize (if 1000000000 ≤ t.nanosecond then t.second + 1 else t.second) = s at *
  generalize (if 1000000000 ≤ t.nanosecond then t.nanosecond - 1000000000
    else t.nanosecond) = n at *
  simp only [List.append_assoc, List.cons_append, List.nil_append]
  rw [Calendar.strictTime]
  simp only [Calendar.exactDigits_padded (w := 2) (n := t.hour) (by decide) (by omega),
    Calendar.exactDigits_padded (w := 2) (n := t.minute) (by decide) (by omega),
    Calendar.exactDigits_padded (w := 2) (n := s) (by decide) hshown, Calendar.char_cons,
    Calendar.fraction_text hfraction hc hpoint, hwritten, Option.bind_eq_bind, Option.bind_some,
    Option.pure_def]

end TimeOfDay

/-! ### Offsets -/

namespace Offset

variable {o : Offset}

/-- Offsets of whole minutes are written in full by hours and minutes. -/
def IsWholeMinutes (o : Offset) : Prop := o.seconds % 60 = 0

instance (o : Offset) : Decidable o.IsWholeMinutes := by unfold IsWholeMinutes; infer_instance

theorem ofSeconds?_seconds (o : Offset) : ofSeconds? o.seconds = some o := by
  rw [ofSeconds?, dif_pos o.lessThanDay]

theorem signText_ne {c : Char} (hminus : '-' ≠ c) (hplus : '+' ≠ c) (r s : List Char) :
    o.signText ++ r ≠ c :: s := by
  intro heq
  unfold signText at heq
  split_ifs at heq
  · exact hminus (List.cons.inj heq).1
  · exact hplus (List.cons.inj heq).1

theorem offsetSign_signText (o : Offset) (r : List Char) :
    Calendar.offsetSign (o.signText ++ r) = some (decide (o.seconds < 0), r) := by
  unfold signText
  by_cases h : o.seconds < 0
  · simp [h, Calendar.offsetSign]
  · simp [h, Calendar.offsetSign]

theorem strictOffset_minuteText (h : o.IsWholeMinutes) (r : List Char) :
    Calendar.strictOffset (o.minuteText ++ r) = some (o, r) := by
  obtain ⟨hlow, hhigh⟩ := o.lessThanDay
  unfold IsWholeMinutes at h
  -- half a minute is added before the seconds are cut off, which changes no whole minutes
  have hours : (o.seconds.natAbs + 30) / 60 / 60 < 24 := by omega
  have minutes : (o.seconds.natAbs + 30) / 60 % 60 < 60 := by omega
  have hseconds : (((o.seconds.natAbs + 30) / 60 / 60 : Nat) * 60 +
      ((o.seconds.natAbs + 30) / 60 % 60 : Nat)) * 60 = (o.seconds.natAbs : Int) := by omega
  have hsigned : (if o.seconds < 0 then -(o.seconds.natAbs : Int) else o.seconds.natAbs) =
      o.seconds := by
    split_ifs <;> omega
  unfold minuteText
  dsimp only
  generalize (o.seconds.natAbs + 30) / 60 / 60 = hour at *
  generalize (o.seconds.natAbs + 30) / 60 % 60 = minute at *
  simp only [List.append_assoc, List.cons_append, List.nil_append]
  unfold Calendar.strictOffset
  split
  case h_1 heq => exact absurd heq (signText_ne (by decide) (by decide) _ _)
  case h_2 heq => exact absurd heq (signText_ne (by decide) (by decide) _ _)
  case h_3 =>
    simp only [offsetSign_signText,
      Calendar.exactDigits_padded (w := 2) (n := hour) (by decide) (by omega),
      Calendar.exactDigits_padded (w := 2) (n := minute) (by decide) (by omega),
      Calendar.char_cons, hours, minutes, hseconds, decide_eq_true_eq, hsigned, ofSeconds?_seconds,
      and_self, Option.bind_eq_bind, Option.bind_some, Option.pure_def, if_true]

end Offset

/-! ### Moments -/

namespace DateTime

variable {d : DateTime}

theorem ofLocal?_parts (d : DateTime) : ofLocal? d.date d.time d.offset = some d := by
  rw [ofLocal?, dif_pos d.reachable]

theorem readDateTime?_text (hyear : 0 ≤ d.date.year ∧ d.date.year ≤ 9999)
    (hoffset : d.offset.IsWholeMinutes) : Calendar.readDateTime? d.text = some d := by
  -- the sign of the offset is what ends the fraction of the second
  obtain ⟨c, r, hzone, hc, hpoint⟩ : ∃ c r, d.offset.minuteText = c :: r ∧ c.isDigit = false ∧
      c ≠ '.' := by
    unfold Offset.minuteText Offset.signText
    by_cases h : d.offset.seconds < 0
    · exact ⟨'-', _, by rw [if_pos h]; rfl, rfl, by decide⟩
    · exact ⟨'+', _, by rw [if_neg h]; rfl, rfl, by decide⟩
  have hstrict : Calendar.strictDateTime d.text = some (d, []) := by
    have hread := Offset.strictOffset_minuteText hoffset []
    rw [List.append_nil] at hread
    rw [hzone] at hread
    rw [text, hzone, List.append_assoc, List.append_assoc, Calendar.strictDateTime]
    simp only [Date.strictDate_text hyear, List.cons_append, List.nil_append,
      Calendar.strictSeparator, TimeOfDay.strictTime_text d.time hc hpoint, hread, ofLocal?_parts,
      Option.bind_eq_bind, Option.bind_some, Option.pure_def]
  rw [Calendar.readDateTime?, Calendar.whole, hstrict, Option.some_or]

end DateTime

/-! ### Dates with a zone -/

namespace Text

theorem splitBytes?_append (a b : List Char) :
    splitBytes? (byteCount a) (a ++ b) = some (a, b) := by
  induction a with
  | nil => cases b <;> rfl
  | cons c a ih =>
    obtain ⟨n, hn⟩ : ∃ n, c.utf8Size + byteCount a = n + 1 :=
      ⟨c.utf8Size + byteCount a - 1, by have := c.utf8Size_pos; omega⟩
    have hrest : n + 1 - c.utf8Size = byteCount a := by omega
    rw [byteCount, hn, List.cons_append, splitBytes?, if_pos (by omega), hrest, ih, Option.map_some]

theorem AreDigits.byteCount_eq {ds : List Char} (h : AreDigits ds) : byteCount ds = ds.length := by
  induction ds with
  | nil => rfl
  | cons c ds ih =>
    have hsize : c.utf8Size = 1 := by
      have hlast := (toNat_of_isDigit (h c List.mem_cons_self)).2
      exact Char.utf8Size_eq_one_iff.2 (UInt32.le_iff_toNat_le.2 (Nat.le_trans hlast (by decide)))
    rw [byteCount, hsize, ih fun d hd => h d (List.mem_cons_of_mem c hd), List.length_cons,
      Nat.add_comm]

theorem byteCount_padded {w n : Nat} (hw : 0 < w) (h : n < 10 ^ w) :
    byteCount (padded w n) = w := by
  rw [(areDigits_padded w n).byteCount_eq, length_padded hw h]

end Text

namespace Date

variable {a : Date}

theorem byteCount_text (h : 0 ≤ a.year ∧ a.year ≤ 9999) : byteCount a.text = 10 := by
  have hmonth := a.month_le
  have hday := a.day_le
  have htext := text_of_year h []
  rw [List.append_nil, List.append_nil] at htext
  rw [htext]
  simp only [Text.byteCount_append, byteCount,
    Text.byteCount_padded (w := 4) (n := a.year.toNat) (by decide) (by omega),
    Text.byteCount_padded (w := 2) (n := a.month) (by decide) (by omega),
    Text.byteCount_padded (w := 2) (n := a.day) (by decide) (by omega)]
  decide

/-- The zone of a date as it is written, nothing for a date without one. -/
def zoneText (zone : Option Offset) : List Char := (zone.map Offset.text).getD []

theorem isZoneText_zoneText {zone : Option Offset} (h : ∀ o ∈ zone, o.IsWholeMinutes) :
    Calendar.isZoneText (zoneText zone) = true := by
  cases zone with
  | none => rfl
  | some o =>
    obtain ⟨hlow, hhigh⟩ := o.lessThanDay
    have hwhole := h o rfl
    unfold Offset.IsWholeMinutes at hwhole
    have hcount (c : Char) (hc : c.utf8Size = 1) :
        byteCount (c :: (padded 2 (o.seconds.natAbs / 3600) ++
          ':' :: padded 2 (o.seconds.natAbs / 60 % 60))) = 6 := by
      simp only [byteCount, Text.byteCount_append,
        Text.byteCount_padded (w := 2) (n := o.seconds.natAbs / 3600) (by decide) (by omega),
        Text.byteCount_padded (w := 2) (n := o.seconds.natAbs / 60 % 60) (by decide) (by omega), hc]
      decide
    change Calendar.isZoneText o.text = true
    unfold Offset.text Offset.signText
    dsimp only
    rw [if_pos (by omega : o.seconds.natAbs % 60 = 0)]
    split_ifs
    · simp [Calendar.isZoneText, hcount '-' rfl]
    · simp [Calendar.isZoneText, hcount '+' rfl]

theorem readDate?_text (hyear : 0 ≤ a.year ∧ a.year ≤ 9999) {zone : Option Offset}
    (hzone : ∀ o ∈ zone, o.IsWholeMinutes) :
    Calendar.readDate? (a.text ++ zoneText zone) = some a := by
  have hsplit := Text.splitBytes?_append a.text (zoneText zone)
  rw [byteCount_text hyear] at hsplit
  rw [Calendar.readDate?, hsplit]
  simp only [Option.bind_eq_bind, Option.bind_some]
  rw [if_pos (isZoneText_zoneText hzone), Calendar.whole, looseDate_text hyear]

end Date

/-! ### No blanks -/

/-- The characters that stand between the numbers are no blanks. -/
theorem isBlank_of_mark : ∀ c ∈ ['+', '-', '.', ':', 'T'], Text.isBlank c = false := by
  change IsUnblank ['+', '-', '.', ':', 'T']
  decide

@[simp] theorem isUnblank_padded (w n : Nat) : IsUnblank (padded w n) :=
  (Text.areDigits_padded w n).isUnblank

theorem Date.isUnblank_text (a : Date) : IsUnblank a.text := by
  have hyear : IsUnblank (yearText a.year) := by
    unfold yearText
    split_ifs <;> simp [isBlank_of_mark]
  simp [text, hyear, isBlank_of_mark]

theorem Offset.isUnblank_signText (o : Offset) : IsUnblank o.signText := by
  unfold signText
  split_ifs <;> simp [isBlank_of_mark]

theorem DateTime.isUnblank_text (d : DateTime) : IsUnblank d.text := by
  have hfraction (n : Nat) : IsUnblank (TimeOfDay.fractionText n) := by
    unfold TimeOfDay.fractionText
    split_ifs <;> simp [isBlank_of_mark]
  have htime : IsUnblank d.time.text := by
    simp [TimeOfDay.text, hfraction, isBlank_of_mark]
  have hoffset : IsUnblank d.offset.minuteText := by
    simp [Offset.minuteText, d.offset.isUnblank_signText, isBlank_of_mark]
  simp [text, d.date.isUnblank_text, htime, hoffset, isBlank_of_mark]

theorem Date.isUnblank_zoneText (zone : Option Offset) : IsUnblank (zoneText zone) := by
  cases zone with
  | none => exact Text.isUnblank_nil
  | some o =>
    change IsUnblank o.text
    unfold Offset.text
    dsimp only
    split_ifs <;> simp [o.isUnblank_signText, isBlank_of_mark]

end XPathExtension
