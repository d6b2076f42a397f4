import XPathExtension.Declaration.Reader
import XPathExtension.Proofs.Scanning
import XPathExtension.SequenceType.Inference

/-!
The reader of declared sequence types is exact: it gives a declaration if and only if the text is a
spelling of it in the grammar. No text is a spelling of two declarations, and a text that is none is
malformed.
-/

namespace XPathExtension

/-! ### Trimming -/

namespace Text

variable {cs ts : List Char}

theorem dropWhile_of_head {l : List Char} (h : ∀ c ∈ l.head?, isBlank c = false) :
    l.dropWhile isBlank = l := by
  cases l with
  | nil => rfl
  | cons c r => rw [List.dropWhile_cons_of_neg (by simp [h c rfl])]

theorem head_dropWhile (l : List Char) :
    ∀ c ∈ (l.dropWhile isBlank).head?, isBlank c = false := by
  intro c hc
  have hhead := List.head?_dropWhile_not isBlank l
  rw [hc] at hhead
  simpa using hhead

theorem isTrimmed_trim (cs : List Char) : IsTrimmed cs (trim cs) := by
  have hfront := List.takeWhile_append_dropWhile (p := isBlank) (l := cs)
  have hback : trim cs ++ ((trimLeft cs).reverse.takeWhile isBlank).reverse = trimLeft cs := by
    rw [trim, ← List.reverse_append]
    change (_ ++ List.dropWhile isBlank (trimLeft cs).reverse).reverse = _
    rw [List.takeWhile_append_dropWhile, List.reverse_reverse]
  refine ⟨⟨cs.takeWhile isBlank, ((trimLeft cs).reverse.takeWhile isBlank).reverse, ?_, ?_⟩, ?_, ?_⟩
  · rw [List.append_assoc, hback]
    exact hfront.symm
  · intro c hc
    rcases List.mem_append.1 hc with hc | hc
    · exact List.mem_takeWhile_imp hc
    · exact List.mem_takeWhile_imp (List.mem_reverse.1 hc)
  · intro c hc
    refine head_dropWhile cs c ?_
    change c ∈ (trimLeft cs).head?
    rw [← hback, List.head?_append, Option.mem_def.1 hc]
    rfl
  · intro c hc
    rw [trim, List.getLast?_reverse] at hc
    exact head_dropWhile _ c hc

theorem trim_eq_iff : trim cs = ts ↔ IsTrimmed cs ts := by
  constructor
  · rintro rfl
    exact isTrimmed_trim cs
  · rintro ⟨⟨front, back, rfl, hblank⟩, hfirst, hlast⟩
    have hfront : ∀ c ∈ front, isBlank c = true := fun c hc => hblank c (by simp [hc])
    have hback : ∀ c ∈ back, isBlank c = true := fun c hc => hblank c (by simp [hc])
    have hleft : trimLeft (front ++ ts ++ back) = trimLeft (ts ++ back) := by
      rw [trimLeft, List.append_assoc, List.dropWhile_append_of_pos hfront]
      rfl
    have hright : trimLeft (back.reverse ++ ts.reverse) = ts.reverse := by
      rw [trimLeft, List.dropWhile_append_of_pos (by simpa using hback)]
      exact dropWhile_of_head (by simpa using hlast)
    rw [trim, hleft]
    cases ts with
    | nil =>
      have hnil : trimLeft ([] ++ back) = [] := List.dropWhile_eq_nil_iff.2 hback
      rw [hnil]
      rfl
    | cons c r =>
      have hself : trimLeft (c :: r ++ back) = c :: r ++ back :=
        dropWhile_of_head (by simpa using hfirst)
      rw [hself, List.reverse_append, hright, List.reverse_reverse]

end Text

namespace Declaration

open Token

variable {r ts us : List Token}

/-! ### Readers -/

theorem readNameTest_eq_some_iff {n : NameTest} :
    readNameTest ts = some (n, r) ↔ ∃ us, n.Derives us ∧ ts = us ++ r := by
  constructor
  · intro h
    unfold readNameTest at h
    split at h
    case h_1 => cases h; exact ⟨_, .wildcard, rfl⟩
    case h_2 => cases h; exact ⟨_, .named _, rfl⟩
    case h_3 => cases h
  · rintro ⟨us, hus, rfl⟩
    cases hus <;> rfl

theorem readDeclared_eq_some_iff {n : LexicalName} :
    readDeclared ts = some (n, r) ↔ ts = .name n :: .rightParen :: r := by
  constructor
  · intro h
    unfold readDeclared at h
    split at h
    case h_1 => cases h; rfl
    case h_2 => cases h
  · rintro rfl
    rfl

theorem readNothing_eq_some_iff {α : Type} {a b : α} :
    readNothing a ts = some (b, r) ↔ ts = .rightParen :: r ∧ a = b := by
  constructor
  · intro h
    unfold readNothing at h
    split at h
    case h_1 => cases h; exact ⟨rfl, rfl⟩
    case h_2 => cases h
  · rintro ⟨rfl, rfl⟩
    rfl

theorem readTarget_eq_some_iff {t : Option String} :
    readTarget ts = some (t, r) ↔ ∃ us, TargetDerives t us ∧ ts = us ++ .rightParen :: r := by
  constructor
  · intro h
    unfold readTarget at h
    split at h
    case h_1 => cases h; exact ⟨_, .none, rfl⟩
    case h_2 => cases h; exact ⟨_, .name _, rfl⟩
    case h_3 => cases h; exact ⟨_, .literal (Text.isTrimmed_trim _), rfl⟩
    case h_4 => cases h
  · rintro ⟨us, hus, rfl⟩
    cases hus with
    | none => rfl
    | name => rfl
    | literal h =>
      obtain rfl := Text.trim_eq_iff.2 h
      rfl

theorem derives_of_readElementTest {e : ElementTest} (h : readElementTest ts = some (e, r)) :
    ∃ us, e.Derives (parenthesized "element" us) ∧ ts = us ++ .rightParen :: r := by
  unfold readElementTest at h
  split at h
  case h_1 => cases h; exact ⟨_, .anything, rfl⟩
  case h_2 =>
    obtain ⟨⟨n, r'⟩, hn, hrest⟩ := Option.bind_eq_some_iff.1 h
    obtain ⟨us, hus, rfl⟩ := readNameTest_eq_some_iff.1 hn
    clear h
    dsimp only at hrest
    split at hrest
    case h_1 => cases hrest; exact ⟨_, .untyped hus, by simp⟩
    case h_2 => cases hrest; exact ⟨_, .typed hus _, by simp⟩
    case h_3 => cases hrest; exact ⟨_, .nillable hus _, by simp⟩
    case h_4 => cases hrest

theorem derives_of_readAttributeTest {a : AttributeTest} (h : readAttributeTest ts = some (a, r)) :
    ∃ us, a.Derives (parenthesized "attribute" us) ∧ ts = us ++ .rightParen :: r := by
  unfold readAttributeTest at h
  split at h
  case h_1 => cases h; exact ⟨_, .anything, rfl⟩
  case h_2 =>
    obtain ⟨⟨n, r'⟩, hn, hrest⟩ := Option.bind_eq_some_iff.1 h
    obtain ⟨us, hus, rfl⟩ := readNameTest_eq_some_iff.1 hn
    clear h
    dsimp only at hrest
    split at hrest
    case h_1 => cases hrest; exact ⟨_, .untyped hus, by simp⟩
    case h_2 => cases hrest; exact ⟨_, .typed hus _, by simp⟩
    case h_3 => cases hrest

theorem parenthesized_append (word : String) (us r : List Token) :
    parenthesized word us ++ r = .name ⟨none, word⟩ :: .leftParen :: (us ++ .rightParen :: r) := by
  simp [parenthesized]

theorem derives_of_readDocumentTest {e : Option ElementTest}
    (h : readDocumentTest ts = some (e, r)) :
    ∃ us, ItemTest.Derives (.document e) (parenthesized "document-node" us) ∧
      ts = us ++ .rightParen :: r := by
  unfold readDocumentTest at h
  split at h
  case h_1 => cases h; exact ⟨_, .anyDocument, rfl⟩
  case h_2 word ts =>
    dsimp only at h
    split at h
    case isTrue hword =>
      obtain ⟨⟨e', r'⟩, he, hrest⟩ := Option.bind_eq_some_iff.1 h
      obtain ⟨us, hus, rfl⟩ := derives_of_readElementTest he
      clear h he
      dsimp only at hrest
      split at hrest
      case h_1 =>
        cases hrest
        exact ⟨_, .document hus, by rw [hword, parenthesized_append]⟩
      case h_2 => cases hrest
    case isFalse =>
      split at h
      case isTrue hword =>
        obtain ⟨⟨e', r'⟩, he, hrest⟩ := Option.bind_eq_some_iff.1 h
        obtain ⟨⟨n, r''⟩, hn, he'⟩ := Option.map_eq_some_iff.1 he
        obtain ⟨rfl, rfl⟩ : .declared n = e' ∧ r'' = r' := by simpa using he'
        obtain rfl := readDeclared_eq_some_iff.1 hn
        clear h he he' hn
        dsimp only at hrest
        split at hrest
        case h_1 =>
          cases hrest
          exact ⟨_, .document (.declared n), by rw [hword]; rfl⟩
        case h_2 => cases hrest
      case isFalse => cases h
  case h_3 => cases h

theorem derives_of_readTest {word : String} {i : ItemTest} (h : readTest word ts = some (i, r)) :
    ∃ us, i.Derives us ∧ .name ⟨none, word⟩ :: .leftParen :: ts = us ++ r := by
  unfold readTest at h
  split at h
  case h_1 =>
    obtain ⟨rfl, rfl⟩ := readNothing_eq_some_iff.1 h
    exact ⟨_, .anyItem, rfl⟩
  case h_2 =>
    obtain ⟨rfl, rfl⟩ := readNothing_eq_some_iff.1 h
    exact ⟨_, .anyNode, rfl⟩
  case h_3 =>
    obtain ⟨rfl, rfl⟩ := readNothing_eq_some_iff.1 h
    exact ⟨_, .textNode, rfl⟩
  case h_4 =>
    obtain ⟨rfl, rfl⟩ := readNothing_eq_some_iff.1 h
    exact ⟨_, .comment, rfl⟩
  case h_5 =>
    obtain ⟨⟨t, r'⟩, ht, h⟩ := Option.map_eq_some_iff.1 h
    cases h
    obtain ⟨us, hus, rfl⟩ := readTarget_eq_some_iff.1 ht
    exact ⟨_, .processingInstruction hus, by rw [parenthesized_append]⟩
  case h_6 =>
    obtain ⟨⟨e, r'⟩, he, h⟩ := Option.map_eq_some_iff.1 h
    cases h
    obtain ⟨us, hus, rfl⟩ := derives_of_readDocumentTest he
    exact ⟨_, hus, by rw [parenthesized_append]⟩
  case h_7 =>
    obtain ⟨⟨e, r'⟩, he, h⟩ := Option.map_eq_some_iff.1 h
    cases h
    obtain ⟨us, hus, rfl⟩ := derives_of_readElementTest he
    exact ⟨_, .element hus, by rw [parenthesized_append]⟩
  case h_8 =>
    obtain ⟨⟨a, r'⟩, ha, h⟩ := Option.map_eq_some_iff.1 h
    cases h
    obtain ⟨us, hus, rfl⟩ := derives_of_readAttributeTest ha
    exact ⟨_, .attributeNode hus, by rw [parenthesized_append]⟩
  case h_9 =>
    obtain ⟨⟨n, r'⟩, hn, h⟩ := Option.map_eq_some_iff.1 h
    cases h
    rw [readDeclared_eq_some_iff.1 hn]
    exact ⟨_, .element (.declared n), rfl⟩
  case h_10 =>
    obtain ⟨⟨n, r'⟩, hn, h⟩ := Option.map_eq_some_iff.1 h
    cases h
    rw [readDeclared_eq_some_iff.1 hn]
    exact ⟨_, .attributeNode (.declared n), rfl⟩
  case h_11 => cases h

theorem derives_of_readItem {i : ItemTest} (h : readItem ts = some (i, r)) :
    ∃ us, i.Derives us ∧ ts = us ++ r := by
  unfold readItem at h
  split at h
  case h_1 => exact derives_of_readTest h
  case h_2 =>
    cases h
    exact ⟨_, .atomic _, rfl⟩
  case h_3 => cases h

theorem readOccurrence_eq_some_iff {o : Occurrence} :
    readOccurrence ts = some o ↔ OccurrenceDerives o ts := by
  constructor
  · intro h
    unfold readOccurrence at h
    split at h
    case h_1 => cases h; exact .one
    case h_2 => cases h; exact .zeroOrOne
    case h_3 => cases h; exact .oneOrMore
    case h_4 => cases h; exact .zeroOrMore
    case h_5 => cases h
  · rintro (_ | _ | _ | _) <;> rfl

theorem derives_of_ofTokens? {d : Declaration} (h : ofTokens? ts = some d) : d.Derives ts := by
  unfold ofTokens? at h
  split at h
  case isTrue hempty =>
    cases h
    rw [hempty]
    exact .empty
  case isFalse =>
    obtain ⟨⟨i, r⟩, hi, h⟩ := Option.bind_eq_some_iff.1 h
    obtain ⟨o, ho, h⟩ := Option.bind_eq_some_iff.1 h
    cases h
    obtain ⟨us, hus, rfl⟩ := derives_of_readItem hi
    exact .typed hus (readOccurrence_eq_some_iff.1 ho)

/-! ### Sentences -/

theorem readElementTest_of_derives {e : ElementTest} (h : e.Derives ts) :
    (∃ us, ts = parenthesized "element" us ∧
      ∀ r, readElementTest (us ++ .rightParen :: r) = some (e, r)) ∨
    ∃ n, e = .declared n ∧ ts = parenthesized "schema-element" [.name n] := by
  cases h with
  | anything => exact .inl ⟨_, rfl, fun _ => rfl⟩
  | untyped h => cases h <;> exact .inl ⟨_, rfl, fun _ => rfl⟩
  | typed h => cases h <;> exact .inl ⟨_, rfl, fun _ => rfl⟩
  | nillable h => cases h <;> exact .inl ⟨_, rfl, fun _ => rfl⟩
  | declared n => exact .inr ⟨n, rfl, rfl⟩

theorem readAttributeTest_of_derives {a : AttributeTest} (h : a.Derives ts) :
    (∃ us, ts = parenthesized "attribute" us ∧
      ∀ r, readAttributeTest (us ++ .rightParen :: r) = some (a, r)) ∨
    ∃ n, a = .declared n ∧ ts = parenthesized "schema-attribute" [.name n] := by
  cases h with
  | anything => exact .inl ⟨_, rfl, fun _ => rfl⟩
  | untyped h => cases h <;> exact .inl ⟨_, rfl, fun _ => rfl⟩
  | typed h => cases h <;> exact .inl ⟨_, rfl, fun _ => rfl⟩
  | declared n => exact .inr ⟨n, rfl, rfl⟩

theorem readDocumentTest_of_derives {e : ElementTest} (h : e.Derives ts) (r : List Token) :
    readDocumentTest (ts ++ .rightParen :: r) = some (some e, r) := by
  rcases readElementTest_of_derives h with ⟨us, rfl, hread⟩ | ⟨n, rfl, rfl⟩
  · rw [parenthesized_append]
    simp [readDocumentTest, hread]
  · rfl

/-- An item test is read from the front of the tokens, if no parenthesis follows. -/
theorem readItem_of_derives {i : ItemTest} (h : i.Derives ts) (hr : r.head? ≠ some .leftParen) :
    readItem (ts ++ r) = some (i, r) := by
  cases h with
  | anyItem => rfl
  | anyNode => rfl
  | textNode => rfl
  | comment => rfl
  | processingInstruction ht =>
    rw [parenthesized_append]
    change (readTarget _).map _ = _
    rw [readTarget_eq_some_iff.2 ⟨_, ht, rfl⟩]
    rfl
  | anyDocument => rfl
  | document he =>
    rw [parenthesized_append]
    change (readDocumentTest _).map _ = _
    rw [readDocumentTest_of_derives he]
    rfl
  | element he =>
    rcases readElementTest_of_derives he with ⟨us, rfl, hread⟩ | ⟨n, rfl, rfl⟩
    · rw [parenthesized_append]
      change (readElementTest _).map _ = _
      rw [hread]
      rfl
    · rfl
  | attributeNode ha =>
    rcases readAttributeTest_of_derives ha with ⟨us, rfl, hread⟩ | ⟨n, rfl, rfl⟩
    · rw [parenthesized_append]
      change (readAttributeTest _).map _ = _
      rw [hread]
      rfl
    · rfl
  | atomic n =>
    unfold readItem
    split
    case h_1 heq =>
      obtain ⟨-, rfl⟩ := List.cons.inj heq
      exact absurd rfl hr
    case h_2 heq =>
      obtain ⟨hn, rfl⟩ := List.cons.inj heq
      cases hn
      rfl
    case h_3 hname => exact absurd rfl (hname n r)

theorem OccurrenceDerives.head?_ne {o : Occurrence} (h : OccurrenceDerives o us) :
    us.head? ≠ some .leftParen := by
  cases h <;> simp

theorem ofTokens?_of_derives {d : Declaration} (h : d.Derives ts) : ofTokens? ts = some d := by
  cases h with
  | empty => rfl
  | @typed i o ts us hi ho =>
    have hread := readItem_of_derives hi ho.head?_ne
    -- the tokens of the empty sequence start no item test
    have hne : ts ++ us ≠ [.name ⟨none, "empty-sequence"⟩, .leftParen, .rightParen] := by
      intro heq
      rw [heq] at hread
      cases hread
    rw [ofTokens?, if_neg hne, hread]
    change (readOccurrence us).bind _ = _
    rw [readOccurrence_eq_some_iff.2 ho]
    rfl

theorem ofTokens?_eq_some_iff {d : Declaration} : ofTokens? ts = some d ↔ d.Derives ts :=
  ⟨derives_of_ofTokens?, ofTokens?_of_derives⟩

/-! ### Names in sentences -/

theorem separated_append (h : Separated ts) (h' : Separated us)
    (hfirst : ∀ u ∈ us.head?, u.isName = false) : Separated (ts ++ us) :=
  List.isChain_append.2 ⟨h, h', fun _ _ u hu _ => hfirst u hu⟩

theorem separated_parenthesized (word : String) (h : Separated us) :
    Separated (parenthesized word us) := by
  have hclosed : Separated (us ++ [.rightParen]) :=
    separated_append h (List.isChain_singleton _) (by simp [isName])
  refine List.isChain_cons_cons.2 ⟨fun _ => rfl, List.isChain_cons.2 ⟨?_, hclosed⟩⟩
  intro _ _ hname
  cases hname

theorem NameTest.Derives.separated {n : NameTest} (h : n.Derives ts) : Separated ts := by
  cases h <;> exact List.isChain_singleton _

theorem ElementTest.Derives.separated {e : ElementTest} (h : e.Derives ts) : Separated ts := by
  cases h with
  | anything => exact separated_parenthesized _ .nil
  | untyped h => exact separated_parenthesized _ h.separated
  | typed h =>
    refine separated_parenthesized _ (separated_append h.separated ?_ ?_) <;>
      simp [Separated, isName]
  | nillable h =>
    refine separated_parenthesized _ (separated_append h.separated ?_ ?_) <;>
      simp [Separated, isName]
  | declared => exact separated_parenthesized _ (List.isChain_singleton _)

theorem AttributeTest.Derives.separated {a : AttributeTest} (h : a.Derives ts) :
    Separated ts := by
  cases h with
  | anything => exact separated_parenthesized _ .nil
  | untyped h => exact separated_parenthesized _ h.separated
  | typed h =>
    refine separated_parenthesized _ (separated_append h.separated ?_ ?_) <;>
      simp [Separated, isName]
  | declared => exact separated_parenthesized _ (List.isChain_singleton _)

theorem TargetDerives.separated {t : Option String} (h : TargetDerives t ts) : Separated ts := by
  cases h with
  | none => exact .nil
  | name => exact List.isChain_singleton _
  | literal => exact List.isChain_singleton _

theorem ItemTest.Derives.separated {i : ItemTest} (h : i.Derives ts) : Separated ts := by
  cases h with
  | processingInstruction h => exact separated_parenthesized _ h.separated
  | document h => exact separated_parenthesized _ h.separated
  | element h => exact h.separated
  | attributeNode h => exact h.separated
  | atomic => exact List.isChain_singleton _
  | _ => exact separated_parenthesized _ .nil

theorem Derives.separated {d : Declaration} (h : d.Derives ts) : Separated ts := by
  cases h with
  | empty => exact separated_parenthesized _ .nil
  | typed hi ho =>
    refine separated_append hi.separated ?_ ?_
    · cases ho <;> simp [Separated]
    · cases ho <;> simp [isName]

/-! ### Spellings -/

theorem read?_eq_some_iff {text : String} {d : Declaration} :
    read? text = some d ↔ d.IsSpelledBy text.toList := by
  unfold read?
  rw [Option.bind_eq_bind, Option.bind_eq_some_iff]
  constructor
  · rintro ⟨ts, hscan, hts⟩
    have hderives := ofTokens?_eq_some_iff.1 hts
    exact ⟨ts, hderives, (scan?_eq_some_iff hderives.separated).1 hscan⟩
  · rintro ⟨ts, hts, hspaced⟩
    exact ⟨ts, (scan?_eq_some_iff hts.separated).2 hspaced, ofTokens?_eq_some_iff.2 hts⟩

/-- The reader agrees with the grammar on all texts. A text spells one declaration at most, which is
then what is read, and a text that spells none is reported as malformed. -/
theorem read?_exact (text : String) :
    (∀ d, read? text = some d ↔ d.IsSpelledBy text.toList) ∧
    (∀ d d' : Declaration, d.IsSpelledBy text.toList → d'.IsSpelledBy text.toList → d = d') ∧
    ((∀ d : Declaration, ¬ d.IsSpelledBy text.toList) →
      read? text = none ∧ ∀ (native : NativeType) (e : ElementType) (ns : Namespaces),
        native.elementType = .ok e →
          SequenceType.infer native (some text) ns = .error (.malformed text)) := by
  refine ⟨fun d => read?_eq_some_iff, fun d d' hd hd' => ?_, fun hnone => ?_⟩
  · have hread := read?_eq_some_iff.2 hd
    have hread' := read?_eq_some_iff.2 hd'
    exact Option.some.inj (hread.symm.trans hread')
  · have hread : read? text = none := by
      cases hread : read? text with
      | none => rfl
      | some d => exact absurd (read?_eq_some_iff.1 hread) (hnone d)
    refine ⟨hread, fun native e ns he => ?_⟩
    simp only [SequenceType.infer, he, hread]
    rfl

theorem read?_exact_element :
    IsSpelledBy (.typed (.element (.test .wildcard (some ⟨⟨some "xs", "int"⟩, true⟩))) .oneOrMore)
        " element( *,xs:int ? )\t+".toList ∧
      ∀ d, ¬ IsSpelledBy d "empty-sequence()?".toList := by
  obtain ⟨hread, -⟩ := read?_exact " element( *,xs:int ? )\t+"
  obtain ⟨hnone, -⟩ := read?_exact "empty-sequence()?"
  refine ⟨(hread _).1 (by decide +kernel), fun d hd => ?_⟩
  have hempty : read? "empty-sequence()?" = none := by decide +kernel
  rw [(hnone d).2 hd] at hempty
  cases hempty

end Declaration

end XPathExtension
