import XPathExtension.Proofs.Outcome
import XPathExtension.Proofs.Scanning
import XPathExtension.SequenceType.Inference
import XPathExtension.SequenceType.Text

/-!
Rendered tests. For each test whose names a declaration can write there is the declaration that its
text spells, and the two are related piece by piece: the declaration derives tokens that the text
spells, and the declaration resolves to the test.
-/

namespace XPathExtension

open Declaration (IsName parenthesized)
open Declaration.Token (Spaced Spelled scan? spaced_of_scan?)

/-! ### Texts of tokens -/

theorem Declaration.Token.spaced_append {ts us : List Token} {cs ds : List Char}
    (h : Spaced ts cs) (h' : Spaced us ds) : Spaced (ts ++ us) (cs ++ ds) := by
  induction h with
  | nil => exact h'
  | space hc _ ih => exact .space hc ih
  | token ht _ ih =>
    rw [List.append_assoc]
    exact .token ht ih

theorem Declaration.Token.spaced_singleton {t : Token} {cs : List Char} (h : t.Spelled cs) :
    Spaced [t] cs := by
  have hspaced := Spaced.token h .nil
  rwa [List.append_nil] at hspaced

/-- Every token of a text is spelled somewhere in it. -/
theorem Declaration.Token.exists_spelled {ts : List Token} {cs : List Char} (h : Spaced ts cs)
    {t : Token} (ht : t ∈ ts) : ∃ us, t.Spelled us := by
  induction h with
  | nil => cases ht
  | space _ _ ih => exact ih ht
  | token hspelled _ ih =>
    rcases List.mem_cons.1 ht with rfl | ht
    · exact ⟨_, hspelled⟩
    · exact ih ht

theorem Declaration.Token.isName_of_spelled {n : LexicalName} {cs : List Char}
    (h : (name n).Spelled cs) : IsName n.localName.toList := by
  cases h with
  | localName h => simpa using h
  | qualifiedName _ h => simpa using h

/-! ### Names -/

namespace ExpandedName

/-- Names that the text of a type shows as a declaration would write them. -/
structure IsWritable (n : ExpandedName) : Prop where
  ns : n.ns = none ∨ n.ns = some Namespace.schema
  localName : IsName n.localName.toList

/-- The name that the text of the name spells. -/
def written (n : ExpandedName) : LexicalName := ⟨n.ns.map fun _ => "xs", n.localName⟩

variable {n : ExpandedName} {ns : Namespaces}

theorem isName_prefix : IsName "xs".toList := by decide

theorem spaced_text (h : n.IsWritable) : Spaced [.name n.written] n.text.toList := by
  obtain ⟨_ | u, l⟩ := n
  · have hspelled := Spelled.localName h.localName
    rw [String.ofList_toList] at hspelled
    exact Declaration.Token.spaced_singleton hspelled
  · obtain rfl : u = Namespace.schema := by simpa using h.ns
    have hspelled := Spelled.qualifiedName isName_prefix h.localName
    refine Declaration.Token.spaced_singleton ?_
    simpa [text, written] using hspelled

variable (hxs : ns.resolve? "xs" = some Namespace.schema) (text : String)
include hxs

theorem resolveName_written (h : n.IsWritable) :
    Declaration.resolveName ns text none n.written = .ok n := by
  obtain ⟨_ | u, l⟩ := n
  · rfl
  · obtain rfl : u = Namespace.schema := by simpa using h.ns
    simp [Declaration.resolveName, written, hxs]

theorem resolveTypeName_written (h : n.ns = some Namespace.schema) :
    Declaration.resolveTypeName ns text n.written = .ok n := by
  obtain ⟨u, l⟩ := n
  dsimp only at h
  subst h
  simp [Declaration.resolveTypeName, Declaration.resolveName, written, hxs]

end ExpandedName

/-! ### Tests -/

/-- What a text before parentheses, a text in them and the last parenthesis spell. -/
theorem Declaration.spaced_parenthesized {word opening : String} {us : List Token}
    {inside : String}
    (h : scan? opening.toList = some [.name ⟨none, word⟩, .leftParen])
    (hus : Spaced us inside.toList) :
    Spaced (parenthesized word us) (opening ++ inside ++ ")").toList := by
  have hclosed : Spaced (us ++ [.rightParen]) (inside.toList ++ [')']) :=
    Token.spaced_append hus (Token.spaced_singleton .rightParen)
  have hall := Token.spaced_append (spaced_of_scan? h) hclosed
  simpa [parenthesized] using hall

/-- The name test that the text of a name, or of none, spells. -/
def nameTestWritten (n : Option ExpandedName) : Declaration.NameTest :=
  n.elim .wildcard fun n => .named n.written

theorem exists_spaced_nameTest {n : Option ExpandedName} (h : ∀ m ∈ n, m.IsWritable) :
    ∃ us, (nameTestWritten n).Derives us ∧
      Spaced us ((n.map ExpandedName.text).getD "*").toList := by
  cases n with
  | none => exact ⟨_, .wildcard, Declaration.Token.spaced_singleton .asterisk⟩
  | some m => exact ⟨_, .named _, ExpandedName.spaced_text (h m rfl)⟩

/-- A text before a comma and the text of a type after it. -/
theorem spaced_typed {us : List Declaration.Token} {before : String} {t : ExpandedName}
    (hus : Spaced us before.toList) (ht : t.IsWritable) :
    Spaced (us ++ [.comma, .name t.written]) (before ++ ", " ++ t.text).toList := by
  have hcomma : Spaced [.comma] ", ".toList := spaced_of_scan? (by decide +kernel)
  have hall := Declaration.Token.spaced_append hus
    (Declaration.Token.spaced_append hcomma (ExpandedName.spaced_text ht))
  simpa using hall

theorem nameTestText_typed (n : Option ExpandedName) (t : ExpandedName) (nillable : Bool) :
    nameTestText n (some t) nillable =
      (n.map ExpandedName.text).getD "*" ++ ", " ++ t.text ++ if nillable then "?" else "" := by
  cases n <;> rfl

theorem nameTestText_untyped (n : ExpandedName) (nillable : Bool) :
    nameTestText (some n) none nillable = n.text := rfl

section Resolution

variable {ns : Namespaces} (hxs : ns.resolve? "xs" = some Namespace.schema) (text : String)
include hxs

theorem resolveNameTest_written {n : Option ExpandedName} (h : ∀ m ∈ n, m.IsWritable) :
    Declaration.resolveNameTest ns text (nameTestWritten n) = .ok n := by
  cases n with
  | none => rfl
  | some m =>
    change some <$> Declaration.resolveName ns text none m.written = _
    rw [ExpandedName.resolveName_written hxs text (h m rfl)]
    rfl

end Resolution

namespace ElementTest

/-- Tests whose text is a declaration of them. -/
inductive IsWritable : ElementTest → Prop
  | untyped {n : Option ExpandedName} (hn : ∀ m ∈ n, m.IsWritable) :
      IsWritable (.test n none false)
  | typed {n : Option ExpandedName} (hn : ∀ m ∈ n, m.IsWritable) {t : ExpandedName}
      (ht : t.IsWritable) (hns : t.ns = some Namespace.schema) (nillable : Bool) :
      IsWritable (.test n (some t) nillable)
  | declared {n : ExpandedName} (hn : n.IsWritable) : IsWritable (.declared n)

def names : ElementTest → List ExpandedName
  | test n t _ => n.toList ++ t.toList
  | declared n => [n]

def written : ElementTest → Declaration.ElementTest
  | test none none _ => .anything
  | test n t nillable => .test (nameTestWritten n) (t.map fun t => ⟨t.written, nillable⟩)
  | declared n => .declared n.written

theorem text_test (n t : Option ExpandedName) (nillable : Bool) :
    (test n t nillable).text = "element(" ++ nameTestText n t nillable ++ ")" := rfl

theorem text_declared (n : ExpandedName) :
    (declared n).text = "schema-element(" ++ n.text ++ ")" := rfl

theorem written_typed (n : Option ExpandedName) (t : ExpandedName) (nillable : Bool) :
    (test n (some t) nillable).written =
      .test (nameTestWritten n) (some ⟨t.written, nillable⟩) := by
  cases n <;> rfl

variable {e : ElementTest}

theorem exists_spaced_text (h : e.IsWritable) :
    ∃ ts, e.written.Derives ts ∧ Spaced ts e.text.toList := by
  have hopening : scan? "element(".toList = some [.name ⟨none, "element"⟩, .leftParen] := by
    decide +kernel
  cases h with
  | @untyped n hn =>
    cases n with
    | none => exact ⟨_, .anything, spaced_of_scan? (by decide +kernel)⟩
    | some m =>
      rw [text_test, nameTestText_untyped]
      exact ⟨_, .untyped (.named _), Declaration.spaced_parenthesized hopening
        (ExpandedName.spaced_text (hn m rfl))⟩
  | @typed n hn t ht hns nillable =>
    obtain ⟨us, hus, hspaced⟩ := exists_spaced_nameTest hn
    have htyped := spaced_typed hspaced ht
    rw [written_typed, text_test, nameTestText_typed]
    cases nillable with
    | false =>
      rw [if_neg Bool.false_ne_true, String.append_empty]
      exact ⟨_, .typed hus _, Declaration.spaced_parenthesized hopening htyped⟩
    | true =>
      have hmark := Declaration.Token.spaced_append htyped
        (Declaration.Token.spaced_singleton .questionMark)
      rw [if_pos rfl]
      refine ⟨_, .nillable hus _, Declaration.spaced_parenthesized hopening ?_⟩
      simpa using hmark
  | declared hn =>
    rw [text_declared]
    exact ⟨_, .declared _, Declaration.spaced_parenthesized (by decide +kernel)
      (ExpandedName.spaced_text hn)⟩

theorem resolve_written {ns : Namespaces} (hxs : ns.resolve? "xs" = some Namespace.schema)
    (text : String) (h : e.IsWritable) : e.written.resolve ns text = .ok e := by
  cases h with
  | @untyped n hn =>
    cases n with
    | none => rfl
    | some m =>
      have hname := resolveNameTest_written hxs text hn
      simp [written, Declaration.ElementTest.resolve, hname, pure, Except.pure]
  | @typed n hn t ht hns nillable =>
    have hname := resolveNameTest_written hxs text hn
    have htype := ExpandedName.resolveTypeName_written hxs text hns
    simp [written, Declaration.ElementTest.resolve, hname, htype, pure, Except.pure]
  | declared hn =>
    have hname := ExpandedName.resolveName_written hxs text hn
    simp [written, Declaration.ElementTest.resolve, hname, pure, Except.pure]

end ElementTest

namespace AttributeTest

/-- Tests whose text is a declaration of them. -/
inductive IsWritable : AttributeTest → Prop
  | untyped {n : Option ExpandedName} (hn : ∀ m ∈ n, m.IsWritable) : IsWritable (.test n none)
  | typed {n : Option ExpandedName} (hn : ∀ m ∈ n, m.IsWritable) {t : ExpandedName}
      (ht : t.IsWritable) (hns : t.ns = some Namespace.schema) : IsWritable (.test n (some t))
  | declared {n : ExpandedName} (hn : n.IsWritable) : IsWritable (.declared n)

def names : AttributeTest → List ExpandedName
  | test n t => n.toList ++ t.toList
  | declared n => [n]

def written : AttributeTest → Declaration.AttributeTest
  | test none none => .anything
  | test n t => .test (nameTestWritten n) (t.map ExpandedName.written)
  | declared n => .declared n.written

theorem text_test (n t : Option ExpandedName) :
    (test n t).text = "attribute(" ++ nameTestText n t false ++ ")" := rfl

theorem text_declared (n : ExpandedName) :
    (declared n).text = "schema-attribute(" ++ n.text ++ ")" := rfl

theorem written_typed (n : Option ExpandedName) (t : ExpandedName) :
    (test n (some t)).written = .test (nameTestWritten n) (some t.written) := by
  cases n <;> rfl

variable {a : AttributeTest}

theorem exists_spaced_text (h : a.IsWritable) :
    ∃ ts, a.written.Derives ts ∧ Spaced ts a.text.toList := by
  have hopening : scan? "attribute(".toList = some [.name ⟨none, "attribute"⟩, .leftParen] := by
    decide +kernel
  cases h with
  | @untyped n hn =>
    cases n with
    | none => exact ⟨_, .anything, spaced_of_scan? (by decide +kernel)⟩
    | some m =>
      rw [text_test, nameTestText_untyped]
      exact ⟨_, .untyped (.named _), Declaration.spaced_parenthesized hopening
        (ExpandedName.spaced_text (hn m rfl))⟩
  | @typed n hn t ht hns =>
    obtain ⟨us, hus, hspaced⟩ := exists_spaced_nameTest hn
    have htyped := spaced_typed hspaced ht
    rw [written_typed, text_test, nameTestText_typed, if_neg Bool.false_ne_true,
      String.append_empty]
    exact ⟨_, .typed hus _, Declaration.spaced_parenthesized hopening htyped⟩
  | declared hn =>
    rw [text_declared]
    exact ⟨_, .declared _, Declaration.spaced_parenthesized (by decide +kernel)
      (ExpandedName.spaced_text hn)⟩

theorem resolve_written {ns : Namespaces} (hxs : ns.resolve? "xs" = some Namespace.schema)
    (text : String) (h : a.IsWritable) : a.written.resolve ns text = .ok a := by
  cases h with
  | @untyped n hn =>
    cases n with
    | none => rfl
    | some m =>
      have hname := resolveNameTest_written hxs text hn
      simp [written, Declaration.AttributeTest.resolve, hname, pure, Except.pure]
  | @typed n hn t ht hns =>
    have hname := resolveNameTest_written hxs text hn
    have htype := ExpandedName.resolveTypeName_written hxs text hns
    simp [written, Declaration.AttributeTest.resolve, hname, htype, pure, Except.pure]
  | declared hn =>
    have hname := ExpandedName.resolveName_written hxs text hn
    simp [written, Declaration.AttributeTest.resolve, hname, pure, Except.pure]

end AttributeTest

namespace ItemTest

/-- Tests whose text is a declaration of them. -/
inductive IsWritable : ItemTest → Prop
  | anyItem : IsWritable .anyItem
  | atomic (a : AtomicType) : IsWritable (.atomic a)
  | anyNode : IsWritable .anyNode
  | textNode : IsWritable .textNode
  | comment : IsWritable .comment
  | processingInstruction {t : Option String} (ht : ∀ s ∈ t, IsName s.toList) :
      IsWritable (.processingInstruction t)
  | element {e : ElementTest} (he : e.IsWritable) : IsWritable (.element e)
  | attributeNode {a : AttributeTest} (ha : a.IsWritable) : IsWritable (.attributeNode a)
  | document {e : Option ElementTest} (he : ∀ f ∈ e, f.IsWritable) : IsWritable (.document e)

def names : ItemTest → List ExpandedName
  | atomic a => [a.name]
  | element e => e.names
  | attributeNode a => a.names
  | document e => e.elim [] ElementTest.names
  | _ => []

def target? : ItemTest → Option String
  | processingInstruction t => t
  | _ => none

def written : ItemTest → Declaration.ItemTest
  | anyItem => .anyItem
  | atomic a => .atomic a.name.written
  | anyNode => .anyNode
  | textNode => .textNode
  | comment => .comment
  | processingInstruction t => .processingInstruction t
  | element e => .element e.written
  | attributeNode a => .attributeNode a.written
  | document e => .document (e.map ElementTest.written)

theorem isWritable_name (a : AtomicType) : a.name.IsWritable := by
  have hall : ∀ a ∈ AtomicType.all, IsName a.name.localName.toList := by decide +kernel
  exact ⟨.inr rfl, hall a (AtomicType.mem_all a)⟩

variable {i : ItemTest}

theorem exists_spaced_text (h : i.IsWritable) :
    ∃ ts, i.written.Derives ts ∧ Spaced ts i.text.toList := by
  cases h with
  | anyItem => exact ⟨_, .anyItem, spaced_of_scan? (by decide +kernel)⟩
  | atomic a => exact ⟨_, .atomic _, ExpandedName.spaced_text (isWritable_name a)⟩
  | anyNode => exact ⟨_, .anyNode, spaced_of_scan? (by decide +kernel)⟩
  | textNode => exact ⟨_, .textNode, spaced_of_scan? (by decide +kernel)⟩
  | comment => exact ⟨_, .comment, spaced_of_scan? (by decide +kernel)⟩
  | @processingInstruction t ht =>
    cases t with
    | none => exact ⟨_, .processingInstruction .none, spaced_of_scan? (by decide +kernel)⟩
    | some s =>
      have hspelled : Spelled (.name ⟨none, s⟩) s.toList := by
        have hspelled := Spelled.localName (ht s rfl)
        rwa [String.ofList_toList] at hspelled
      exact ⟨_, .processingInstruction (.name s), Declaration.spaced_parenthesized
        (by decide +kernel) (Declaration.Token.spaced_singleton hspelled)⟩
  | element he =>
    obtain ⟨ts, hts, hspaced⟩ := ElementTest.exists_spaced_text he
    exact ⟨ts, .element hts, hspaced⟩
  | attributeNode ha =>
    obtain ⟨ts, hts, hspaced⟩ := AttributeTest.exists_spaced_text ha
    exact ⟨ts, .attributeNode hts, hspaced⟩
  | @document e he =>
    cases e with
    | none => exact ⟨_, .anyDocument, spaced_of_scan? (by decide +kernel)⟩
    | some f =>
      obtain ⟨ts, hts, hspaced⟩ := ElementTest.exists_spaced_text (he f rfl)
      exact ⟨_, .document hts, Declaration.spaced_parenthesized (by decide +kernel) hspaced⟩

theorem resolve_written {ns : Namespaces} (hxs : ns.resolve? "xs" = some Namespace.schema)
    (text : String) (h : i.IsWritable) : i.written.resolve ns text = .ok i := by
  cases h with
  | atomic a =>
    have hname := ExpandedName.resolveTypeName_written hxs text (n := a.name) rfl
    simp [written, Declaration.ItemTest.resolve, hname]
  | element he =>
    have hresolve := ElementTest.resolve_written hxs text he
    simp [written, Declaration.ItemTest.resolve, hresolve, pure, Except.pure]
  | attributeNode ha =>
    have hresolve := AttributeTest.resolve_written hxs text ha
    simp [written, Declaration.ItemTest.resolve, hresolve, pure, Except.pure]
  | @document e he =>
    cases e with
    | none => rfl
    | some f =>
      have hresolve := ElementTest.resolve_written hxs text (he f rfl)
      simp [written, Declaration.ItemTest.resolve, hresolve, pure, Except.pure]
  | _ => rfl

end ItemTest

end XPathExtension
