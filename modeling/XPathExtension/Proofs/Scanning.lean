import Mathlib.Data.List.Chain
import Mathlib.Data.List.TakeWhile
import XPathExtension.Declaration.Grammar
import XPathExtension.Proofs.CharacterClasses

/-!
The scanner of declared sequence types is exact: the tokens that it finds are spelled by the text,
and it finds every list of tokens that a text spells, unless two names stand next to each other,
which could also be read as one.
-/

namespace XPathExtension.Declaration

namespace Token

variable {c d q : Char} {r rest cs us : List Char} {t : Token} {ts : List Token}

/-! ### Characters of names -/

theorem isNameStart_iff : isNameStart c = true ↔ Text.isLetter c = true ∨ c = '_' := by
  simp [isNameStart]

theorem isNamePart_iff : isNamePart c = true ↔ Text.isLetter c = true ∨
    Text.isDecimalDigit c = true ∨ c = '_' ∨ c = '-' ∨ c = '.' := by
  simp [isNamePart, or_assoc]

theorem isName_cons_iff :
    IsName (c :: cs) ↔ isNameStart c = true ∧ ∀ d ∈ cs, isNamePart d = true := by
  simp only [isNameStart_iff, isNamePart_iff]
  constructor
  · rintro ⟨start, parts⟩
    exact ⟨start, parts⟩
  · rintro ⟨start, parts⟩
    exact .mk start parts

instance : (cs : List Char) → Decidable (IsName cs)
  | [] => isFalse nofun
  | c :: r => decidable_of_iff (isNameStart c = true ∧ r.all isNamePart = true) <| by
    rw [isName_cons_iff, List.all_eq_true]

theorem exists_cons_of_isName (h : IsName cs) :
    ∃ c r, cs = c :: r ∧ isNameStart c = true ∧ ∀ d ∈ r, isNamePart d = true := by
  cases h with
  | mk start parts => exact ⟨_, _, rfl, isName_cons_iff.1 (.mk start parts)⟩

theorem isNamePart_of_isNameStart (h : isNameStart c = true) : isNamePart c = true := by
  rcases isNameStart_iff.1 h with hletter | hunderscore
  · exact isNamePart_iff.2 (.inl hletter)
  · exact isNamePart_iff.2 (.inr (.inr (.inl hunderscore)))

theorem isNamePart_of_isName (h : IsName cs) : ∀ c ∈ cs, isNamePart c = true := by
  obtain ⟨c, r, rfl, hstart, hparts⟩ := exists_cons_of_isName h
  exact List.forall_mem_cons.2 ⟨isNamePart_of_isNameStart hstart, hparts⟩

/-- The ASCII characters that are no parts of names. -/
def separator : Text.CharClass where
  ranges := [(0x0, 0x2C), (0x2F, 0x2F), (0x3A, 0x40), (0x5B, 0x5E), (0x60, 0x60), (0x7B, 0x7F)]

theorem not_isNamePart_of_separator (h : separator.contains c = true) : isNamePart c = false := by
  have hapart : separator.isApartFrom [Text.letter, Text.decimalDigit] = true := by decide +kernel
  have hnot := Text.CharClass.not_contains_of_isApartFrom (by decide) (by simp [Text.tables])
    hapart h
  have hletter := hnot Text.letter (by simp)
  have hdigit := hnot Text.decimalDigit (by simp)
  rw [Bool.eq_false_iff, ne_eq, isNamePart_iff, Text.isLetter, Text.isDecimalDigit, hletter, hdigit]
  rintro (hfalse | hfalse | rfl | rfl | rfl)
  · cases hfalse
  · cases hfalse
  all_goals exact absurd h (by decide)

theorem not_isNameStart_of_separator (h : separator.contains c = true) : isNameStart c = false := by
  rw [Bool.eq_false_iff]
  intro hstart
  exact Bool.eq_false_iff.1 (not_isNamePart_of_separator h) (isNamePart_of_isNameStart hstart)

theorem isSpace_iff : isSpace c = true ↔ c = ' ' ∨ c = '\t' ∨ c = '\r' ∨ c = '\n' := by
  simp [isSpace, or_assoc]

theorem isSpace_of_isNameStart (h : isNameStart c = true) : isSpace c = false := by
  rw [← Bool.not_eq_true, isSpace_iff]
  rintro (rfl | rfl | rfl | rfl) <;> cases h.symm.trans (not_isNameStart_of_separator rfl)

theorem mark?_of_isNameStart (h : isNameStart c = true) : mark? c = none := by
  unfold mark?
  split <;> first | rfl | cases h.symm.trans (not_isNameStart_of_separator rfl)

/-! ### What the scanner finds -/

theorem spelled_of_mark? (h : mark? c = some t) : t.Spelled [c] := by
  unfold mark? at h
  split at h
  case h_1 => cases h; exact .leftParen
  case h_2 => cases h; exact .rightParen
  case h_3 => cases h; exact .comma
  case h_4 => cases h; exact .questionMark
  case h_5 => cases h; exact .asterisk
  case h_6 => cases h; exact .plusSign
  case h_7 => cases h

theorem isName_takeWhile (h : isNameStart c = true) (r : List Char) :
    IsName (c :: r.takeWhile isNamePart) :=
  isName_cons_iff.2 ⟨h, fun _ => List.mem_takeWhile_imp⟩

theorem spelled_takeName (h : isNameStart c = true) (r : List Char) :
    ∃ us, c :: r = us ++ (takeName c r).2 ∧ (name (takeName c r).1).Spelled us := by
  have hsplit : c :: r = c :: r.takeWhile isNamePart ++ r.dropWhile isNamePart := by
    rw [List.cons_append, List.takeWhile_append_dropWhile]
  have hfirst := isName_takeWhile h r
  unfold takeName
  dsimp only
  split
  case h_1 d r' hrest =>
    rw [hrest] at hsplit
    split
    case isTrue hd =>
      refine ⟨c :: r.takeWhile isNamePart ++ ':' :: d :: r'.takeWhile isNamePart, ?_,
        .qualifiedName hfirst (isName_takeWhile hd r')⟩
      rw [hsplit]
      simp
    case isFalse => exact ⟨_, hsplit, .localName hfirst⟩
  case h_2 => exact ⟨_, hsplit, .localName hfirst⟩

theorem eq_append_of_takeLiteral? (h : takeLiteral? q r = some (cs, rest)) :
    r = cs ++ q :: rest ∧ q ∉ cs := by
  have hsplit := List.takeWhile_append_dropWhile (p := (· ≠ q)) (l := r)
  unfold takeLiteral? at h
  split at h
  case h_1 => cases h
  case h_2 q' rest' hrest =>
    obtain ⟨rfl, rfl⟩ : r.takeWhile (· ≠ q) = cs ∧ rest' = rest := by simpa using h
    have hq : q' = q := by
      have hhead := List.head?_dropWhile_not (· ≠ q) r
      rw [hrest] at hhead
      simpa using hhead
    rw [hrest, hq] at hsplit
    refine ⟨hsplit.symm, fun hmem => ?_⟩
    simpa using List.mem_takeWhile_imp hmem

theorem spelled_of_take? (h : take? c r = some (t, rest)) :
    ∃ us, c :: r = us ++ rest ∧ t.Spelled us := by
  unfold take? at h
  split at h
  case h_1 t' hmark =>
    obtain ⟨rfl, rfl⟩ : t' = t ∧ r = rest := by simpa using h
    exact ⟨[c], rfl, spelled_of_mark? hmark⟩
  case h_2 =>
    split at h
    case isTrue hstart =>
      obtain ⟨rfl, rfl⟩ : name (takeName c r).1 = t ∧ (takeName c r).2 = rest := by simpa using h
      exact spelled_takeName hstart r
    case isFalse =>
      split at h
      case isTrue hquote =>
        obtain ⟨⟨cs, rest'⟩, hliteral, ht⟩ := Option.map_eq_some_iff.1 h
        obtain ⟨rfl, rfl⟩ : literal cs = t ∧ rest' = rest := by simpa using ht
        obtain ⟨rfl, hmem⟩ := eq_append_of_takeLiteral? hliteral
        refine ⟨c :: (cs ++ [c]), by simp, ?_⟩
        rcases hquote with rfl | rfl
        · exact .doubleQuoted hmem
        · exact .singleQuoted hmem
      case isFalse => cases h

theorem spaced_of_scan? (h : scan? cs = some ts) : Spaced ts cs := by
  fun_induction scan? cs generalizing ts with
  | case1 =>
    obtain rfl := Option.some.inj h
    exact .nil
  | case2 c r hspace ih => exact .space (isSpace_iff.1 hspace) (ih h)
  | case3 => cases h
  | case4 c r hspace t rest htake _ ih =>
    obtain ⟨ts', hts, rfl⟩ := Option.map_eq_some_iff.1 h
    obtain ⟨us, hus, hspelled⟩ := spelled_of_take? htake
    rw [hus]
    exact .token hspelled (ih hts)

/-! ### What the scanner cannot miss -/

def isName : Token → Bool
  | name _ => true
  | _ => false

/-- No two names stand next to each other. -/
def Separated (ts : List Token) : Prop :=
  ts.IsChain fun a b => a.isName = true → b.isName = false

/-- A name that stands before these characters ends there. -/
def EndsName (cs : List Char) : Prop :=
  ∀ c ∈ cs.head?, isNamePart c = false ∧ c ≠ ':'

theorem Spaced.endsName (h : Spaced ts cs) (hts : ∀ t ∈ ts.head?, t.isName = false) :
    EndsName cs := by
  intro c hc
  cases h with
  | nil => cases hc
  | space hspace =>
    obtain rfl := Option.some.inj hc
    rcases hspace with rfl | rfl | rfl | rfl <;>
      exact ⟨not_isNamePart_of_separator rfl, by decide⟩
  | token ht =>
    have hname := hts _ rfl
    cases ht with
    | localName => cases hname
    | qualifiedName => cases hname
    | _ =>
      obtain rfl := Option.some.inj hc
      exact ⟨not_isNamePart_of_separator rfl, by decide⟩

theorem takeWhile_of_endsName (hr : ∀ d ∈ r, isNamePart d = true) (h : EndsName cs) :
    (r ++ cs).takeWhile isNamePart = r ∧ (r ++ cs).dropWhile isNamePart = cs := by
  have hcs : cs.takeWhile isNamePart = [] ∧ cs.dropWhile isNamePart = cs := by
    cases cs with
    | nil => exact ⟨rfl, rfl⟩
    | cons c cs => simp [(h c rfl).1]
  rw [List.takeWhile_append_of_pos hr, List.dropWhile_append_of_pos hr, hcs.1, hcs.2,
    List.append_nil]
  exact ⟨rfl, rfl⟩

theorem takeName_localName (hr : ∀ d ∈ r, isNamePart d = true) (h : EndsName cs) :
    takeName c (r ++ cs) = (⟨none, String.ofList (c :: r)⟩, cs) := by
  obtain ⟨htake, hdrop⟩ := takeWhile_of_endsName hr h
  unfold takeName
  dsimp only
  rw [htake, hdrop]
  split
  case h_1 => exact absurd rfl (h ':' rfl).2
  case h_2 => rfl

theorem takeName_qualifiedName (hr : ∀ d ∈ r, isNamePart d = true) (hd : isNameStart d = true)
    (hus : ∀ d ∈ us, isNamePart d = true) (h : EndsName cs) :
    takeName c (r ++ ':' :: d :: (us ++ cs)) =
      (⟨some (String.ofList (c :: r)), String.ofList (d :: us)⟩, cs) := by
  have hcolon : isNamePart ':' = false := not_isNamePart_of_separator rfl
  have htake : (r ++ ':' :: d :: (us ++ cs)).takeWhile isNamePart = r := by
    rw [List.takeWhile_append_of_pos hr]
    simp [hcolon]
  have hdrop : (r ++ ':' :: d :: (us ++ cs)).dropWhile isNamePart = ':' :: d :: (us ++ cs) := by
    rw [List.dropWhile_append_of_pos hr]
    simp [hcolon]
  obtain ⟨htake', hdrop'⟩ := takeWhile_of_endsName hus h
  unfold takeName
  simp only [htake, hdrop, hd, if_true, htake', hdrop']

theorem takeLiteral?_append (h : q ∉ us) (cs : List Char) :
    takeLiteral? q (us ++ q :: cs) = some (us, cs) := by
  have hus : ∀ c ∈ us, decide (c ≠ q) = true := by
    intro c hc
    simpa using ne_of_mem_of_not_mem hc h
  unfold takeLiteral?
  rw [List.dropWhile_append_of_pos hus, List.takeWhile_append_of_pos hus]
  simp

/-- The scanner takes a token from the front, if what follows ends a name. -/
theorem take?_of_spelled (ht : t.Spelled us) (h : t.isName = true → EndsName cs) :
    ∃ c r, us = c :: r ∧ isSpace c = false ∧ take? c (r ++ cs) = some (t, cs) := by
  cases ht with
  | localName hname =>
    obtain ⟨c, r, rfl, hc, hr⟩ := exists_cons_of_isName hname
    refine ⟨c, r, rfl, isSpace_of_isNameStart hc, ?_⟩
    simp [take?, mark?_of_isNameStart hc, hc, takeName_localName hr (h rfl)]
  | qualifiedName hprefix hname =>
    obtain ⟨c, r, rfl, hc, hr⟩ := exists_cons_of_isName hprefix
    obtain ⟨d, us, rfl, hd, hus⟩ := exists_cons_of_isName hname
    refine ⟨c, r ++ ':' :: d :: us, rfl, isSpace_of_isNameStart hc, ?_⟩
    simp [take?, mark?_of_isNameStart hc, hc, takeName_qualifiedName hr hd hus (h rfl)]
  | doubleQuoted hcs =>
    have hstart : isNameStart '"' = false := not_isNameStart_of_separator rfl
    refine ⟨_, _, rfl, by decide, ?_⟩
    simp [take?, mark?, hstart, takeLiteral?_append hcs]
  | singleQuoted hcs =>
    have hstart : isNameStart '\'' = false := not_isNameStart_of_separator rfl
    refine ⟨_, _, rfl, by decide, ?_⟩
    simp [take?, mark?, hstart, takeLiteral?_append hcs]
  | _ => exact ⟨_, [], rfl, by decide, rfl⟩

theorem scan?_of_take? (hspace : isSpace c = false) (h : take? c r = some (t, rest)) :
    scan? (c :: r) = (scan? rest).map (t :: ·) := by
  rw [scan?, if_neg (by simp [hspace])]
  split
  case h_1 hnone => cases hnone.symm.trans h
  case h_2 t' rest' htake =>
    obtain ⟨rfl, rfl⟩ : t' = t ∧ rest' = rest := by simpa using htake.symm.trans h
    rfl

/-- A text that spells separate tokens is scanned as these tokens. -/
theorem scan?_of_spaced (h : Spaced ts cs) (hts : Separated ts) : scan? cs = some ts := by
  induction h with
  | nil => rw [scan?]
  | space hspace _ ih => rw [scan?, if_pos (isSpace_iff.2 hspace), ih hts]
  | token ht hrest ih =>
    -- a name ends where the next token starts, because that one is no name
    obtain ⟨hhead, htail⟩ := List.isChain_cons.1 hts
    obtain ⟨c, r, rfl, hspace, htake⟩ := take?_of_spelled ht fun hname =>
      hrest.endsName fun t' ht' => hhead t' ht' hname
    rw [List.cons_append, scan?_of_take? hspace htake, ih htail]
    rfl

theorem scan?_eq_some_iff (hts : Separated ts) : scan? cs = some ts ↔ Spaced ts cs :=
  ⟨spaced_of_scan?, fun h => scan?_of_spaced h hts⟩

end Token

end XPathExtension.Declaration
