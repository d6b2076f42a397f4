import XPathExtension.Proofs.Inference
import XPathExtension.Proofs.Reading
import XPathExtension.Proofs.Rendering

/-!
Sequence types declared by their own text. The text of an inferred type is itself a declaration, and
where it names nothing outside the built-in types, what is inferred from it is the same type again.
The names of a type that was read are names of the grammar, because a text spelled them.
-/

namespace XPathExtension

open Declaration (IsName Token parenthesized)
open Declaration.Token (Spaced spaced_of_scan?)

/-! ### Tests of read declarations -/

section Resolved

variable {ns : Namespaces} {text : String} {ts : List Token}

/-- All names are names of the grammar, as they are where a text spells the tokens. -/
def Declaration.Token.AreNamed (ts : List Token) : Prop :=
  ∀ n : LexicalName, Token.name n ∈ ts → IsName n.localName.toList

theorem Declaration.Token.areNamed_of_spaced {cs : List Char} (h : Spaced ts cs) :
    AreNamed ts := by
  intro n hn
  obtain ⟨us, hus⟩ := exists_spelled h hn
  exact isName_of_spelled hus

theorem Declaration.Token.AreNamed.inside {word : String}
    (h : AreNamed (parenthesized word ts)) : AreNamed ts :=
  fun n hn => h n (by simp [parenthesized, hn])

theorem Declaration.Token.AreNamed.left {us : List Token} (h : AreNamed (ts ++ us)) :
    AreNamed ts :=
  fun n hn => h n (List.mem_append_left us hn)

/-- Names in no namespace or in that of the built-in types. -/
def ExpandedName.AreKnown (ms : List ExpandedName) : Prop :=
  ∀ m ∈ ms, m.ns = none ∨ m.ns = some Namespace.schema

theorem ExpandedName.areKnown_append {ms ms' : List ExpandedName} :
    AreKnown (ms ++ ms') ↔ AreKnown ms ∧ AreKnown ms' :=
  List.forall_mem_append

/-- A name keeps its local part, and is in no namespace only where none is implied. -/
theorem of_resolveName {implied : Option String} {n : LexicalName} {m : ExpandedName}
    (h : Declaration.resolveName ns text implied n = .ok m) :
    m.localName = n.localName ∧ (m.ns = none → implied = none) := by
  unfold Declaration.resolveName at h
  cases hp : n.nsPrefix with
  | none =>
    simp only [hp, Except.ok.injEq] at h
    subst h
    exact ⟨rfl, id⟩
  | some p =>
    cases hu : ns.resolve? p with
    | none => simp [hp, hu] at h
    | some u =>
      simp only [hp, hu, Except.ok.injEq] at h
      subst h
      exact ⟨rfl, nofun⟩

theorem isWritable_of_resolveName {implied : Option String} {n : LexicalName} {m : ExpandedName}
    (hn : IsName n.localName.toList) (h : Declaration.resolveName ns text implied n = .ok m)
    (hm : m.ns = none ∨ m.ns = some Namespace.schema) : m.IsWritable := by
  refine ⟨hm, ?_⟩
  rw [(of_resolveName h).1]
  exact hn

theorem isWritable_of_resolveNameTest {n : Declaration.NameTest} {o : Option ExpandedName}
    (hd : n.Derives ts) (hts : Token.AreNamed ts)
    (h : Declaration.resolveNameTest ns text n = .ok o) (ho : ExpandedName.AreKnown o.toList) :
    ∀ m ∈ o, m.IsWritable := by
  cases hd with
  | wildcard =>
    cases h
    exact nofun
  | named n =>
    obtain ⟨m, hm, rfl⟩ := Outcome.map_eq_ok_iff.1 h
    rintro _ ⟨⟩
    exact isWritable_of_resolveName (hts n (by simp)) hm (ho m (by simp))

theorem isWritable_of_resolveTypeName {n : LexicalName} {m : ExpandedName}
    (hn : IsName n.localName.toList) (h : Declaration.resolveTypeName ns text n = .ok m)
    (hm : m.ns = none ∨ m.ns = some Namespace.schema) :
    m.IsWritable ∧ m.ns = some Namespace.schema := by
  refine ⟨isWritable_of_resolveName hn h hm, hm.resolve_left fun hnone => ?_⟩
  cases (of_resolveName h).2 hnone

/-- A name test and the type after it. -/
theorem isWritable_of_typed {n : Declaration.NameTest} {us vs : List Token} {t : LexicalName}
    {o : Option ExpandedName} {m : ExpandedName} (hn : n.Derives us)
    (hts : Token.AreNamed (us ++ .comma :: .name t :: vs))
    (ho : Declaration.resolveNameTest ns text n = .ok o)
    (hm : Declaration.resolveTypeName ns text t = .ok m)
    (hknown : ExpandedName.AreKnown (o.toList ++ [m])) :
    (∀ k ∈ o, k.IsWritable) ∧ m.IsWritable ∧ m.ns = some Namespace.schema := by
  obtain ⟨hname, htype⟩ := ExpandedName.areKnown_append.1 hknown
  exact ⟨isWritable_of_resolveNameTest hn hts.left ho hname,
    isWritable_of_resolveTypeName (hts t (by simp)) hm (htype m (by simp))⟩

theorem ElementTest.isWritable_of_resolve {d : Declaration.ElementTest} {e : ElementTest}
    (hd : d.Derives ts) (hts : Token.AreNamed ts) (h : d.resolve ns text = .ok e)
    (he : ExpandedName.AreKnown e.names) : e.IsWritable := by
  have htyped {n : Declaration.NameTest} {us vs : List Token} {t : LexicalName} {nillable : Bool}
      (hn : n.Derives us) (hts : Token.AreNamed (us ++ .comma :: .name t :: vs))
      (h : Declaration.ElementTest.resolve ns text (.test n (some ⟨t, nillable⟩)) = .ok e) :
      e.IsWritable := by
    obtain ⟨o, ho, hrest⟩ := Outcome.bind_eq_ok_iff.1 h
    obtain ⟨m, hm, hrest⟩ := Outcome.bind_eq_ok_iff.1 hrest
    obtain rfl := Except.ok.inj hrest
    obtain ⟨hname, htype, hschema⟩ := isWritable_of_typed hn hts ho hm he
    exact .typed hname htype hschema nillable
  cases hd with
  | anything =>
    obtain rfl := Except.ok.inj h
    exact .untyped nofun
  | untyped hn =>
    obtain ⟨o, ho, hrest⟩ := Outcome.bind_eq_ok_iff.1 h
    obtain rfl := Except.ok.inj hrest
    obtain ⟨hknown, -⟩ := ExpandedName.areKnown_append.1 he
    exact .untyped (isWritable_of_resolveNameTest hn hts.inside ho hknown)
  | typed hn t => exact htyped hn hts.inside h
  | nillable hn t => exact htyped hn hts.inside h
  | declared n =>
    obtain ⟨m, hm, hrest⟩ := Outcome.bind_eq_ok_iff.1 h
    obtain rfl := Except.ok.inj hrest
    exact .declared (isWritable_of_resolveName (hts.inside n (by simp)) hm (he m (by simp [names])))

theorem AttributeTest.isWritable_of_resolve {d : Declaration.AttributeTest} {a : AttributeTest}
    (hd : d.Derives ts) (hts : Token.AreNamed ts) (h : d.resolve ns text = .ok a)
    (ha : ExpandedName.AreKnown a.names) : a.IsWritable := by
  cases hd with
  | anything =>
    obtain rfl := Except.ok.inj h
    exact .untyped nofun
  | untyped hn =>
    obtain ⟨o, ho, hrest⟩ := Outcome.bind_eq_ok_iff.1 h
    obtain rfl := Except.ok.inj hrest
    obtain ⟨hknown, -⟩ := ExpandedName.areKnown_append.1 ha
    exact .untyped (isWritable_of_resolveNameTest hn hts.inside ho hknown)
  | typed hn t =>
    obtain ⟨o, ho, hrest⟩ := Outcome.bind_eq_ok_iff.1 h
    obtain ⟨m, hm, hrest⟩ := Outcome.bind_eq_ok_iff.1 hrest
    obtain rfl := Except.ok.inj hrest
    obtain ⟨hname, htype, hschema⟩ := isWritable_of_typed hn hts.inside ho hm ha
    exact .typed hname htype hschema
  | declared n =>
    obtain ⟨m, hm, hrest⟩ := Outcome.bind_eq_ok_iff.1 h
    obtain rfl := Except.ok.inj hrest
    exact .declared (isWritable_of_resolveName (hts.inside n (by simp)) hm (ha m (by simp [names])))

/-- A test that was read and resolved is writable if its names are known. The target of a processing
instruction may be any text, and is writable if it is a name. -/
theorem ItemTest.isWritable_of_resolve {d : Declaration.ItemTest} {i : ItemTest}
    (hd : d.Derives ts) (hts : Token.AreNamed ts) (h : d.resolve ns text = .ok i)
    (hi : ExpandedName.AreKnown i.names) (ht : ∀ s ∈ i.target?, IsName s.toList) :
    i.IsWritable := by
  cases hd with
  | anyItem =>
    obtain rfl := Except.ok.inj h
    exact .anyItem
  | anyNode =>
    obtain rfl := Except.ok.inj h
    exact .anyNode
  | textNode =>
    obtain rfl := Except.ok.inj h
    exact .textNode
  | comment =>
    obtain rfl := Except.ok.inj h
    exact .comment
  | processingInstruction =>
    obtain rfl := Except.ok.inj h
    exact .processingInstruction ht
  | anyDocument =>
    obtain rfl := Except.ok.inj h
    exact .document nofun
  | document hd =>
    obtain ⟨e, he, hrest⟩ := Outcome.bind_eq_ok_iff.1 h
    obtain rfl := Except.ok.inj hrest
    refine .document ?_
    rintro _ ⟨⟩
    exact ElementTest.isWritable_of_resolve hd hts.inside he hi
  | element hd =>
    obtain ⟨e, he, hrest⟩ := Outcome.bind_eq_ok_iff.1 h
    obtain rfl := Except.ok.inj hrest
    exact .element (ElementTest.isWritable_of_resolve hd hts he hi)
  | attributeNode hd =>
    obtain ⟨a, ha, hrest⟩ := Outcome.bind_eq_ok_iff.1 h
    obtain rfl := Except.ok.inj hrest
    exact .attributeNode (AttributeTest.isWritable_of_resolve hd hts ha hi)
  | atomic n =>
    obtain ⟨m, -, hrest⟩ := Outcome.bind_eq_ok_iff.1 h
    cases ha : AtomicType.ofName? m with
    | none => simp [ha] at hrest
    | some a =>
      simp only [ha] at hrest
      obtain rfl := Except.ok.inj hrest
      exact .atomic a

end Resolved

/-! ### Inferred types -/

namespace SequenceType

def names : SequenceType → List ExpandedName
  | empty => []
  | typed i _ => i.test.names

def target? : SequenceType → Option String
  | empty => none
  | typed i _ => i.test.target?

def IsWritable (t : SequenceType) : Prop := ∀ i ∈ t.item?, i.test.IsWritable

theorem isWritable_empty : IsWritable .empty := by
  intro i hi
  cases hi

def written : SequenceType → Declaration
  | empty => .empty
  | typed i o => .typed i.test.written o

variable {native : NativeType} {declared : Option String} {ns : Namespaces} {t : SequenceType}

theorem exists_spaced_indicator (o : Occurrence) :
    ∃ ts, Declaration.OccurrenceDerives o ts ∧ Spaced ts o.indicator.toList := by
  cases o with
  | one => exact ⟨_, .one, .nil⟩
  | zeroOrOne => exact ⟨_, .zeroOrOne, spaced_of_scan? (by decide +kernel)⟩
  | oneOrMore => exact ⟨_, .oneOrMore, spaced_of_scan? (by decide +kernel)⟩
  | zeroOrMore => exact ⟨_, .zeroOrMore, spaced_of_scan? (by decide +kernel)⟩

/-- The text of a type spells the declaration that is written for it. -/
theorem read?_text (h : t.IsWritable) : Declaration.read? t.text = some t.written := by
  rw [Declaration.read?_eq_some_iff]
  cases t with
  | empty => exact ⟨_, .empty, spaced_of_scan? (by decide +kernel)⟩
  | typed i o =>
    obtain ⟨ts, hts, hspaced⟩ := ItemTest.exists_spaced_text (h i rfl)
    obtain ⟨us, hus, hmark⟩ := exists_spaced_indicator o
    refine ⟨_, .typed hts hus, ?_⟩
    have hall := Declaration.Token.spaced_append hspaced hmark
    rwa [← String.toList_append] at hall

theorem isWritable_itemTest (e : ElementType) : e.itemTest.IsWritable := by
  unfold ElementType.itemTest
  cases e.shape with
  | unit => exact .anyItem
  | atomic a => exact .atomic a
  | node => exact .anyNode
  | item => exact .anyItem

theorem isWritable_ofNative (e : ElementType) : (ofNative native e).IsWritable := by
  unfold ofNative
  split
  case isTrue => exact isWritable_empty
  case isFalse =>
    rintro _ ⟨⟩
    exact isWritable_itemTest e

theorem isWritable_of_infer (h : infer native declared ns = .ok t)
    (hknown : ExpandedName.AreKnown t.names) (ht : ∀ s ∈ t.target?, IsName s.toList) :
    t.IsWritable := by
  cases declared with
  | none =>
    obtain ⟨e, -, rfl⟩ := infer_none_eq_ok_iff.1 h
    exact isWritable_ofNative e
  | some text =>
    obtain ⟨e, -, d, hd, hresolve⟩ := infer_some_eq_ok_iff.1 h
    obtain ⟨ts, hts, hspaced⟩ := Declaration.read?_eq_some_iff.1 hd
    have hnamed := Declaration.Token.areNamed_of_spaced hspaced
    cases hts with
    | empty =>
      obtain ⟨-, rfl⟩ := ofDeclaration_empty_eq_ok_iff.1 hresolve
      exact isWritable_empty
    | typed hi =>
      obtain ⟨test, htest, -, rfl⟩ := ofDeclaration_typed_eq_ok_iff.1 hresolve
      rintro _ ⟨⟩
      exact ItemTest.isWritable_of_resolve hi hnamed.left htest hknown ht

/-- The types that a native type lets a declaration have. -/
inductive Allowed (native : NativeType) (e : ElementType) : SequenceType → Prop
  | empty (h : native.isUnit = true ∨ native.hasDefault = true) : Allowed native e .empty
  | typed {test : ItemTest} {o : Occurrence} (h : native.misfit? e test o = none) :
      Allowed native e (.typed ⟨test, e⟩ o)

theorem allowed_of_infer (h : infer native declared ns = .ok t) :
    ∃ e, native.elementType = .ok e ∧ Allowed native e t := by
  cases declared with
  | none =>
    obtain ⟨e, he, rfl⟩ := infer_none_eq_ok_iff.1 h
    refine ⟨e, he, ?_⟩
    unfold ofNative
    split
    case isTrue hu => exact .empty (.inl hu)
    case isFalse hu =>
      have hu : native.isUnit = false := by simpa using hu
      exact .typed (NativeType.misfit?_of_fits hu (NativeType.fits_itemTest hu he))
  | some text =>
    obtain ⟨e, he, d, -, hresolve⟩ := infer_some_eq_ok_iff.1 h
    refine ⟨e, he, ?_⟩
    cases d with
    | empty =>
      obtain ⟨hd, rfl⟩ := ofDeclaration_empty_eq_ok_iff.1 hresolve
      exact .empty hd
    | typed i o =>
      obtain ⟨test, -, hm, rfl⟩ := ofDeclaration_typed_eq_ok_iff.1 hresolve
      exact .typed hm

theorem ofDeclaration_written (hxs : ns.resolve? "xs" = some Namespace.schema) {e : ElementType}
    (text : String) (h : Allowed native e t) (ht : t.IsWritable) :
    ofDeclaration native e ns text t.written = .ok t := by
  cases h with
  | empty h => exact ofDeclaration_empty_eq_ok_iff.2 ⟨h, rfl⟩
  | typed h =>
    exact ofDeclaration_typed_eq_ok_iff.2
      ⟨_, ItemTest.resolve_written hxs text (ht _ rfl), h, rfl⟩

theorem infer_text_of_isWritable (hxs : ns.resolve? "xs" = some Namespace.schema)
    (h : infer native declared ns = .ok t) (ht : t.IsWritable) :
    infer native (some t.text) ns = .ok t := by
  obtain ⟨e, he, hallowed⟩ := allowed_of_infer h
  exact infer_some_eq_ok_iff.2
    ⟨e, he, t.written, read?_text ht, ofDeclaration_written hxs t.text hallowed ht⟩

/-- Rendering and inference agree. The text of a type that was inferred without a declaration always
declares the same type. So does the text of a type that was inferred from one, if its names are in
no namespace or in that of the built-in types and the target of a processing instruction, which is
rendered without quotes, is a name. -/
theorem infer_text (native : NativeType) (ns : Namespaces)
    (hxs : ns.resolve? "xs" = some Namespace.schema) :
    (∀ t, infer native none ns = .ok t → infer native (some t.text) ns = .ok t) ∧
    ∀ (declared : Option String) (t : SequenceType), infer native declared ns = .ok t →
      (∀ n ∈ t.names, n.ns = none ∨ n.ns = some Namespace.schema) →
      (∀ target ∈ t.target?, IsName target.toList) →
      infer native (some t.text) ns = .ok t := by
  refine ⟨fun t h => ?_, fun declared t h hnames htarget => ?_⟩
  · obtain ⟨e, -, rfl⟩ := infer_none_eq_ok_iff.1 h
    exact infer_text_of_isWritable hxs h (isWritable_ofNative e)
  · exact infer_text_of_isWritable hxs h (isWritable_of_infer h hnames htarget)

theorem infer_text_documents :
    ∃ t, infer (.array "nodes" (.single ⟨"node", .node, true⟩) false)
        (some "document-node( element(a,string ?) )*") .builtin = .ok t ∧
      t.text = "document-node(element(a, xs:string?))*" ∧
      infer (.array "nodes" (.single ⟨"node", .node, true⟩) false) (some t.text) .builtin =
        .ok t := by
  have hi : infer (.array "nodes" (.single ⟨"node", .node, true⟩) false)
      (some "document-node( element(a,string ?) )*") .builtin =
        .ok (.typed ⟨.document (some (.test (some ⟨none, "a"⟩) (some (.schema "string")) true)),
          ⟨"node", .node, true⟩⟩ .zeroOrMore) := by
    decide +kernel
  obtain ⟨-, hagree⟩ := infer_text (.array "nodes" (.single ⟨"node", .node, true⟩) false)
    .builtin (by decide +kernel)
  exact ⟨_, hi, by decide +kernel, hagree _ _ hi (by decide +kernel) nofun⟩

end SequenceType

end XPathExtension
