import XPathExtension.Proofs.CastFaults
import XPathExtension.Proofs.Receiving
import XPathExtension.Proofs.Redeclaring

/-!
The two readers of qualified names: the one for values, and the one for declarations. A name that is
declared is read as a value too, with the same prefix and the same local name, and both readers look
the prefix up alike. The reader for values takes more characters for parts of a name, so that
conversely a name of a value can be declared exactly if it is made of letters, decimal digits and
the three marks that names may have.
-/

namespace XPathExtension

open Text (IsUnblank)
open Declaration (IsName Token parenthesized)
open Declaration.Token (Spaced Spelled isNamePart isNameStart)

/-! ### Names -/

namespace Declaration.Token

variable {c : Char} {cs us : List Char} {ts : List Token} {n : LexicalName}

theorem isPart_of_isNamePart (h : isNamePart c = true) : Name.isPart c = true := by
  simp only [Name.isPart, Bool.or_eq_true, beq_iff_eq, or_assoc]
  rcases isNamePart_iff.1 h with hletter | hdigit | hmark
  · exact .inl (Text.isAlphabetic_of_isLetter hletter)
  · exact .inr (.inl (Text.isNumeral_of_isDecimalDigit hdigit))
  · exact .inr (.inr hmark)

/-- Of the parts of a declared name, the same may start a name for both readers. -/
theorem isStart_iff (h : isNamePart c = true) : Name.isStart c = true ↔ isNameStart c = true := by
  simp only [Name.isStart, Bool.or_eq_true, beq_iff_eq, isNameStart_iff]
  refine or_congr_left' fun hunderscore => ⟨fun halphabetic => ?_, Text.isAlphabetic_of_isLetter⟩
  rcases isNamePart_iff.1 h with hletter | hdigit | hmark | rfl | rfl
  · exact hletter
  · rw [Text.not_isAlphabetic_of_isDecimalDigit hdigit] at halphabetic
    cases halphabetic
  · exact absurd hmark hunderscore
  all_goals
    rw [Text.not_isAlphabetic_of_isApartFrom (k := ⟨[(0x2D, 0x2E)]⟩) (by decide) (by decide)
      rfl] at halphabetic
    cases halphabetic

theorem isName_iff : IsName cs ↔ Name.isNCName cs = true ∧ ∀ c ∈ cs, isNamePart c = true := by
  cases cs with
  | nil => exact ⟨(by cases ·), fun h => absurd h.1 (by simp [Name.isNCName])⟩
  | cons c r =>
    rw [isName_cons_iff, Name.isNCName, Bool.and_eq_true, List.all_eq_true, List.forall_mem_cons]
    constructor
    · rintro ⟨hstart, hparts⟩
      have hpart := isNamePart_of_isNameStart hstart
      exact ⟨⟨(isStart_iff hpart).2 hstart, fun d hd => isPart_of_isNamePart (hparts d hd)⟩,
        hpart, hparts⟩
    · rintro ⟨⟨hstart, -⟩, hpart, hparts⟩
      exact ⟨(isStart_iff hpart).1 hstart, hparts⟩

end Declaration.Token

namespace Name

variable {cs : List Char} {l : String} {n : LexicalName}

theorem readQualified?_none_iff : readQualified? cs = some ⟨none, l⟩ ↔
    isNCName cs = true ∧ l = String.ofList cs := by
  constructor
  · intro h
    unfold readQualified? at h
    split at h
    case h_1 ls hsplit =>
      split at h
      case isFalse => cases h
      case isTrue hname =>
        cases h
        unfold splitPrefix at hsplit
        split at hsplit <;> cases hsplit
        exact ⟨hname, rfl⟩
    case h_2 => split at h <;> cases h
  · rintro ⟨hname, rfl⟩
    rw [readQualified?, splitPrefix_of_isNCName hname]
    simp [hname]

theorem isName_of_isNCName (h : isNCName cs = true)
    (hparts : ∀ c ∈ cs, isNamePart c = true ∨ c = ':') : IsName cs := by
  refine Token.isName_iff.2 ⟨h, fun c hc => (hparts c hc).resolve_right ?_⟩
  simpa using ne_colon_of_isNCName h c hc

/-- A text spells a name of a declaration if and only if it is read as that name of a value and has
no other parts than names of declarations. -/
theorem spelled_iff : (Token.name n).Spelled cs ↔
    readQualified? cs = some n ∧ ∀ c ∈ cs, isNamePart c = true ∨ c = ':' := by
  constructor
  · intro h
    cases h with
    | localName h =>
      obtain ⟨hname, hparts⟩ := Token.isName_iff.1 h
      exact ⟨readQualified?_none_iff.2 ⟨hname, rfl⟩, fun c hc => .inl (hparts c hc)⟩
    | qualifiedName hp h =>
      obtain ⟨hns, hnsParts⟩ := Token.isName_iff.1 hp
      obtain ⟨hname, hparts⟩ := Token.isName_iff.1 h
      refine ⟨readQualified?_eq_some_iff.2 ⟨_, _, rfl, hns, hname, rfl, rfl⟩, fun c hc => ?_⟩
      rcases List.mem_append.1 hc with hc | hc
      · exact .inl (hnsParts c hc)
      · rcases List.mem_cons.1 hc with rfl | hc
        · exact .inr rfl
        · exact .inl (hparts c hc)
  · rintro ⟨hread, hparts⟩
    obtain ⟨nsPrefix, l⟩ := n
    cases nsPrefix with
    | none =>
      obtain ⟨hname, rfl⟩ := readQualified?_none_iff.1 hread
      exact .localName (isName_of_isNCName hname hparts)
    | some p =>
      obtain ⟨ps, ls, rfl, hps, hls, rfl, rfl⟩ := readQualified?_eq_some_iff.1 hread
      exact .qualifiedName
        (isName_of_isNCName hps fun c hc => hparts c (List.mem_append_left _ hc))
        (isName_of_isNCName hls fun c hc =>
          hparts c (List.mem_append_right _ (List.mem_cons_of_mem _ hc)))

end Name

/-! ### Declarations of attributes -/

namespace Declaration

/-- The declaration of attributes with the name that a text spells. -/
def attributeText (s : String) : String := "attribute(" ++ s ++ ")"

variable {c : Char} {cs ds : List Char} {s : String} {ts us : List Token} {n : LexicalName}
  {o : Occurrence}

theorem eq_rightParen_of_spelled {t : Token} (h : t.Spelled ds)
    (hlast : ds.getLast? = some ')') : t = .rightParen := by
  have hname {n : LexicalName} (h : (Token.name n).Spelled ds) : False := by
    rcases (Name.spelled_iff.1 h).2 ')' (List.mem_of_getLast? hlast) with hpart | hcolon
    · cases hpart.symm.trans (Token.not_isNamePart_of_separator rfl)
    · cases hcolon
  have hquoted {q : Char} {cs : List Char} (hq : (q :: (cs ++ [q])).getLast? = some ')') :
      q = ')' := by
    rw [← List.cons_append, List.getLast?_concat] at hq
    exact Option.some.inj hq
  cases t with
  | name n => exact (hname h).elim
  | literal => cases h <;> cases hquoted hlast
  | rightParen => rfl
  | _ => cases h; cases hlast

theorem eq_nil_of_spaced (h : Spaced ts []) : ts = [] := by
  generalize hds : ([] : List Char) = ds at h
  cases h with
  | nil => rfl
  | space => cases hds
  | token ht =>
    have hend : Token.EndsName [] := nofun
    obtain ⟨c, r, rfl, -⟩ := Token.take?_of_spelled ht fun _ => hend
    cases hds

/-- A text that ends with a parenthesis has that for its last token. -/
theorem getLast?_of_spaced (h : Spaced ts ds) (hlast : ds.getLast? = some ')') :
    ts.getLast? = some .rightParen := by
  induction h with
  | nil => cases hlast
  | @space ts c cs hspace hrest ih =>
    cases cs with
    | nil =>
      obtain rfl := Option.some.inj hlast
      exact absurd hspace (by decide)
    | cons d r => exact ih (by rwa [List.getLast?_cons_cons] at hlast)
  | @token t ts us cs ht hrest ih =>
    cases cs with
    | nil =>
      obtain rfl := eq_nil_of_spaced hrest
      rw [List.append_nil] at hlast
      rw [eq_rightParen_of_spelled ht hlast]
      rfl
    | cons d r =>
      rw [List.getLast?_append_of_ne_nil _ (List.cons_ne_nil d r)] at hlast
      rw [List.getLast?_cons, ih hlast]
      rfl

/-- Tokens without white space are spelled one right after the other. -/
theorem exists_spelled_of_spaced (h : Spaced ts ds) (hds : ∀ c ∈ ds, Token.isSpace c = false) :
    ∃ uss, List.Forall₂ Spelled ts uss ∧ ds = uss.flatten := by
  induction h with
  | nil => exact ⟨[], .nil, rfl⟩
  | @space ts c cs hspace =>
    have hnot := hds c List.mem_cons_self
    rw [Token.isSpace_iff.2 hspace] at hnot
    cases hnot
  | @token t ts us cs ht hrest ih =>
    obtain ⟨uss, hspelled, rfl⟩ := ih fun c hc => hds c (List.mem_append_right us hc)
    exact ⟨us :: uss, .cons ht hspelled, rfl⟩

theorem isSpace_of_isBlank (h : Text.isBlank c = false) : Token.isSpace c = false := by
  rw [Bool.eq_false_iff, ne_eq, Token.isSpace_iff]
  rintro (rfl | rfl | rfl | rfl) <;> exact absurd h (by decide)

theorem toList_attributeText (s : String) :
    (attributeText s).toList = "attribute".toList ++ ('(' :: (s.toList ++ [')'])) := by
  rw [attributeText, String.toList_append, String.toList_append, List.append_assoc]
  rfl

/-- The only spelling of a word is the word. -/
theorem eq_of_spelled_word {word : String} (h : (Token.name ⟨none, word⟩).Spelled ds) :
    ds = word.toList := by
  obtain ⟨-, rfl⟩ := Name.readQualified?_none_iff.1 (Name.spelled_iff.1 h).1
  exact String.toList_ofList.symm

theorem isSpace_attributeText (hs : IsUnblank s.toList) :
    ∀ c ∈ "attribute".toList ++ ('(' :: (s.toList ++ [')'])), Token.isSpace c = false := by
  intro c hc
  rcases List.mem_append.1 hc with hc | hc
  · have hword : "attribute".toList.all (fun c => !Token.isSpace c) = true := by decide
    simpa using List.all_eq_true.1 hword c hc
  · rcases List.mem_cons.1 hc with rfl | hc
    · rfl
    · rcases List.mem_append.1 hc with hc | hc
      · exact isSpace_of_isBlank (hs c hc)
      · obtain rfl := List.mem_singleton.1 hc
        rfl

/-- The declaration of an attribute with a name spells the name and has no mark after it. -/
theorem read?_attributeText_iff (hs : IsUnblank s.toList) :
    read? (attributeText s) = some (.typed (.attributeNode (.test (.named n) none)) o) ↔
      (Token.name n).Spelled s.toList ∧ o = .one := by
  rw [read?_eq_some_iff]
  constructor
  · rintro ⟨ts, hts, hspaced⟩
    rw [toList_attributeText] at hspaced
    have hlast := getLast?_of_spaced hspaced (by simp [List.getLast?_cons])
    obtain ⟨uss, hspelled, htext⟩ := exists_spelled_of_spaced hspaced (isSpace_attributeText hs)
    cases hts with
    | typed hi ho =>
      cases hi with
      | attributeNode ha =>
        cases ha with
        | untyped hn =>
          cases hn
          cases ho with
          | one =>
            obtain - | ⟨hw, - | ⟨hopen, - | ⟨hname, - | ⟨hclose, hnil⟩⟩⟩⟩ := hspelled
            cases hopen
            cases hclose
            cases hnil
            obtain rfl := eq_of_spelled_word hw
            have hinside := List.tail_eq_of_cons_eq (List.append_cancel_left htext)
            rw [List.append_cancel_right hinside]
            exact ⟨hname, rfl⟩
          | _ => cases hlast
  · rintro ⟨hname, rfl⟩
    have hword : IsName "attribute".toList := by decide
    refine ⟨_, .typed (.attributeNode (.untyped (.named n))) .one, ?_⟩
    rw [toList_attributeText]
    exact .token (.localName hword) (.token .leftParen (.token hname (.token .rightParen .nil)))

end Declaration

/-! ### Resolution -/

namespace Cast

variable {ns : Namespaces} {s p : String} {n : LexicalName} {q : QName}

/-- The text is a name, whether its prefix is bound or not. -/
def ReadsName (ns : Namespaces) (s : String) : Prop :=
  (∃ q, readQName ns s = .ok q) ∨ ∃ e, readQName ns s = .error e ∧ e.code = .fons0004

/-- What the prefix of a name is looked up to. -/
inductive Resolves (ns : Namespaces) (n : LexicalName) : Except CastError QName → Prop
  | unprefixed (h : n.nsPrefix = none) : Resolves ns n (.ok ⟨none, n.localName, none⟩)
  | bound {p u : String} (h : n.nsPrefix = some p) (hu : ns.resolve? p = some u) :
      Resolves ns n (.ok ⟨some p, n.localName, some u⟩)
  | unbound {p : String} (h : n.nsPrefix = some p) (hu : ns.resolve? p = none) :
      Resolves ns n (.error (.unboundPrefix p))

theorem resolves_readQName (h : Name.readQualified? (Text.trim s.toList) = some n) :
    Resolves ns n (readQName ns s) := by
  obtain ⟨nsPrefix, l⟩ := n
  unfold readQName
  rw [h]
  cases nsPrefix with
  | none => exact .unprefixed rfl
  | some p =>
    dsimp only
    cases hu : ns.resolve? p with
    | none => exact .unbound rfl hu
    | some u => exact .bound rfl hu

theorem readsName_iff :
    ReadsName ns s ↔ ∃ n, Name.readQualified? (Text.trim s.toList) = some n := by
  constructor
  · intro h
    cases hread : Name.readQualified? (Text.trim s.toList) with
    | some n => exact ⟨n, rfl⟩
    | none =>
      have herror : readQName ns s = .error (.invalidQName s) := by
        rw [readQName, hread]
      rcases h with ⟨q, hq⟩ | ⟨e, he, hcode⟩
      · rw [herror] at hq
        cases hq
      · obtain rfl := Except.error.inj (herror.symm.trans he)
        cases hcode
  · rintro ⟨n, hn⟩
    have hresolves : Resolves ns n (readQName ns s) := resolves_readQName hn
    rw [ReadsName]
    generalize readQName ns s = out at hresolves ⊢
    cases hresolves with
    | unprefixed => exact .inl ⟨_, rfl⟩
    | bound => exact .inl ⟨_, rfl⟩
    | unbound => exact .inr ⟨_, rfl, rfl⟩

end Cast

namespace Declaration

variable {ns : Namespaces} {s p text : String} {n : LexicalName} {q : QName}
  {out : Except CastError QName} {native : NativeType} {e : ElementType} {type : SequenceType}
  {o : Occurrence}

theorem resolveName_of_resolves_ok (text : String) (h : Cast.Resolves ns n (.ok q)) :
    q.nsPrefix = n.nsPrefix ∧ q.localName = n.localName ∧
      resolveName ns text none n = .ok q.expanded := by
  cases h with
  | unprefixed hp =>
    refine ⟨hp.symm, rfl, ?_⟩
    rw [resolveName, hp]
    rfl
  | bound hp hu =>
    refine ⟨hp.symm, rfl, ?_⟩
    rw [resolveName, hp]
    dsimp only
    rw [hu]
    rfl

theorem resolveName_eq_error_iff (h : Cast.Resolves ns n out) :
    resolveName ns text none n = .error (.unboundPrefix p text) ↔
      out = .error (.unboundPrefix p) := by
  cases h with
  | unprefixed hp => simp [resolveName, hp]
  | bound hp hu => simp [resolveName, hp, hu]
  | unbound hp hu => simp [resolveName, hp, hu]

/-- The item test of a declared attribute fails only where its prefix is unbound. -/
theorem resolve_attribute (ns : Namespaces) (text : String) (n : LexicalName) :
    ItemTest.resolve ns text (.attributeNode (.test (.named n) none)) =
      (fun m => .attributeNode (.test (some m) none)) <$> resolveName ns text none n := by
  simp only [ItemTest.resolve, AttributeTest.resolve, resolveNameTest]
  cases resolveName ns text none n <;> rfl

section Inferred

variable (hread : read? text = some (.typed (.attributeNode (.test (.named n) none)) o))
  (he : native.elementType = .ok e)
include hread he

theorem infer_eq_ofDeclaration : SequenceType.infer native (some text) ns =
    SequenceType.ofDeclaration native e ns text
      (.typed (.attributeNode (.test (.named n) none)) o) := by
  simp only [SequenceType.infer, he, hread]
  rfl

theorem infer_attribute_eq_ok_iff (h : Cast.Resolves ns n (.ok q)) :
    SequenceType.infer native (some text) ns = .ok type ↔
      native.misfit? e (.attributeNode (.test (some q.expanded) none)) o = none ∧
        type = .typed ⟨.attributeNode (.test (some q.expanded) none), e⟩ o := by
  obtain ⟨-, -, hresolve⟩ := resolveName_of_resolves_ok text h
  rw [infer_eq_ofDeclaration hread he, SequenceType.ofDeclaration_typed_eq_ok_iff,
    resolve_attribute, hresolve]
  constructor
  · rintro ⟨_, ⟨⟩, hfits, rfl⟩
    exact ⟨hfits, rfl⟩
  · rintro ⟨hfits, rfl⟩
    exact ⟨_, rfl, hfits, rfl⟩

theorem infer_attribute_eq_error_iff (h : Cast.Resolves ns n out) :
    SequenceType.infer native (some text) ns = .error (.unboundPrefix p text) ↔
      out = .error (.unboundPrefix p) := by
  rw [← resolveName_eq_error_iff h, infer_eq_ofDeclaration hread he]
  simp only [SequenceType.ofDeclaration, resolve_attribute]
  cases resolveName ns text none n with
  | error f => simp [bind, Except.bind, Functor.map, Except.map]
  | ok m =>
    -- a misfit is another error
    refine iff_of_false (fun herror => ?_) (fun hok => by cases hok)
    dsimp only [Functor.map, Except.map, bind, Except.bind] at herror
    split at herror <;> cases herror

end Inferred

/-- The reader of names of values and that of declarations. A text without blanks is the name of a
declared attribute exactly if it is read as a name of a value and its characters, colons apart, are
letters, decimal digits, underscores, hyphens and full stops. Both readers then split it at the same
place, one finds its prefix unbound where the other does, and otherwise the attribute that is
inferred, for any native type that can carry one, has the name that is read. -/
theorem readers_agree (s : String) (hs : IsUnblank s.toList) (ns : Namespaces) :
    ((∃ n o, read? (attributeText s) = some (.typed (.attributeNode (.test (.named n) none)) o)) ↔
      Cast.ReadsName ns s ∧ ∀ c ∈ s.toList, isNamePart c = true ∨ c = ':') ∧
    ∀ n o, read? (attributeText s) = some (.typed (.attributeNode (.test (.named n) none)) o) →
      o = .one ∧ Name.readQualified? (Text.trim s.toList) = some n ∧
      (∀ q, Cast.readQName ns s = .ok q → q.nsPrefix = n.nsPrefix ∧ q.localName = n.localName) ∧
      ∀ native e, NativeType.elementType native = .ok e →
        (∀ p, SequenceType.infer native (some (attributeText s)) ns =
            .error (.unboundPrefix p (attributeText s)) ↔
          Cast.readQName ns s = .error (.unboundPrefix p)) ∧
        ∀ q, Cast.readQName ns s = .ok q →
          ∀ type, SequenceType.infer native (some (attributeText s)) ns = .ok type ↔
            native.misfit? e (.attributeNode (.test (some q.expanded) none)) .one = none ∧
              type = .typed ⟨.attributeNode (.test (some q.expanded) none), e⟩ .one := by
  have htrim : Text.trim s.toList = s.toList := hs.trim
  refine ⟨?_, fun n o hread => ?_⟩
  · simp only [read?_attributeText_iff hs, Name.spelled_iff, Cast.readsName_iff, htrim]
    constructor
    · rintro ⟨n, o, ⟨hn, hparts⟩, rfl⟩
      exact ⟨⟨n, hn⟩, hparts⟩
    · rintro ⟨⟨n, hn⟩, hparts⟩
      exact ⟨n, .one, ⟨hn, hparts⟩, rfl⟩
  · obtain ⟨hspelled, rfl⟩ := (read?_attributeText_iff hs).1 hread
    have hname : Name.readQualified? (Text.trim s.toList) = some n := by
      rw [htrim]
      exact (Name.spelled_iff.1 hspelled).1
    have hresolves : Cast.Resolves ns n (Cast.readQName ns s) := Cast.resolves_readQName hname
    refine ⟨rfl, hname, fun q hq => ?_, fun native e he => ⟨fun p => ?_, fun q hq type => ?_⟩⟩
    · rw [hq] at hresolves
      obtain ⟨hns, hlocal, -⟩ := resolveName_of_resolves_ok s hresolves
      exact ⟨hns, hlocal⟩
    · exact infer_attribute_eq_error_iff hread he hresolves
    · rw [hq] at hresolves
      exact infer_attribute_eq_ok_iff hread he hresolves

theorem readers_agree_prefixed :
    IsUnblank "xs:a-1".toList ∧ ∃ q, Cast.readQName .builtin "xs:a-1" = .ok q ∧
      SequenceType.infer (.single ⟨"node", .node, true⟩) (some (attributeText "xs:a-1"))
        .builtin = .ok (.typed
          ⟨.attributeNode (.test (some q.expanded) none), ⟨"node", .node, true⟩⟩ .one) := by
  have hs : IsUnblank "xs:a-1".toList := by decide +kernel
  have hread : read? (attributeText "xs:a-1") =
      some (.typed (.attributeNode (.test (.named ⟨some "xs", "a-1"⟩) none)) .one) := by
    decide +kernel
  have hq : Cast.readQName .builtin "xs:a-1" = .ok ⟨some "xs", "a-1", some Namespace.schema⟩ := by
    decide +kernel
  obtain ⟨-, -, -, hinfer⟩ := (readers_agree "xs:a-1" hs .builtin).2 _ _ hread
  exact ⟨hs, _, hq, ((hinfer _ _ rfl).2 _ hq _).2 ⟨by decide, rfl⟩⟩

/-- A superscript digit is no part of a declared name. -/
theorem readers_disagree_superscript :
    IsUnblank "a\u00b2".toList ∧ (∃ q, Cast.readQName .empty "a\u00b2" = .ok q) ∧
      read? (attributeText "a\u00b2") = none := by
  refine ⟨by decide +kernel, ⟨⟨none, "a\u00b2", none⟩, by decide +kernel⟩, by decide +kernel⟩

end Declaration

end XPathExtension
