import XPathExtension.Conversion.NodeTest
import XPathExtension.Proofs.Redeclaring

/-!
Texts of types told apart. A text shows the occurrence by its last character, the kind of the test
by the word before the first parenthesis, and the names by what stands between the marks that no
name has, so that inferred types with the same text are the same. The one thing that a text does not
show is whether a processing instruction with an empty target has a target at all.
-/

namespace XPathExtension

open Declaration (IsName)
open Declaration.Token (isNamePart isNameStart not_isNamePart_of_separator)

/-! ### Texts cut at a mark -/

section Cut

variable {c : Char} {us vs cs ds : List Char}

/-- The first occurrence of a mark cuts a text in one way. -/
theorem cut_at_mark (hus : c ∉ us) (hvs : c ∉ vs) (h : us ++ c :: cs = vs ++ c :: ds) :
    us = vs ∧ cs = ds := by
  have hread := Declaration.Token.takeLiteral?_append hus cs
  rw [h, Declaration.Token.takeLiteral?_append hvs ds] at hread
  obtain ⟨rfl, rfl⟩ := Prod.mk.inj (Option.some.inj hread)
  exact ⟨rfl, rfl⟩

/-- The end of the parts of a name cuts a text in one way. -/
theorem cut_after_parts (hus : ∀ c ∈ us, isNamePart c = true) (hvs : ∀ c ∈ vs, isNamePart c = true)
    (hcs : ∀ c ∈ cs.head?, isNamePart c = false) (hds : ∀ c ∈ ds.head?, isNamePart c = false)
    (h : us ++ cs = vs ++ ds) : us = vs ∧ cs = ds := by
  have htake {us cs : List Char} (hus : ∀ c ∈ us, isNamePart c = true)
      (hcs : ∀ c ∈ cs.head?, isNamePart c = false) : (us ++ cs).takeWhile isNamePart = us := by
    rw [List.takeWhile_append_of_pos hus]
    cases cs with
    | nil => simp
    | cons c cs => simp [hcs c rfl]
  have hsame : us = vs := by rw [← htake hus hcs, h, htake hvs hds]
  subst hsame
  exact ⟨rfl, List.append_cancel_left h⟩

end Cut

/-! ### Names -/

namespace ExpandedName

/-- The text of the name shows where its namespace ends and what its local name is. -/
structure IsShown (n : ExpandedName) : Prop where
  ns : ∀ u ∈ n.ns, '\x7d' ∉ u.toList
  localName : IsName n.localName.toList

theorem not_mem_schema : '\x7d' ∉ Namespace.schema.toList := by decide

/-- What may follow the text of a name: no part of one and neither of the marks inside one. -/
def Follows (r : List Char) : Prop := ∀ c ∈ r.head?, isNamePart c = false ∧ c ≠ ':' ∧ c ≠ '\x7b'

/-- The first parts of a text that begins with the name, and what comes after them. -/
inductive Begins (n : ExpandedName) (r : List Char) : List Char → List Char → Prop
  | bare (h : n.ns = none) : Begins n r n.localName.toList r
  | builtin (h : n.ns = some Namespace.schema) :
      Begins n r "xs".toList (':' :: (n.localName.toList ++ r))
  | inNamespace {u : String} (h : n.ns = some u) :
      Begins n r "Q".toList ('\x7b' :: (u.toList ++ '\x7d' :: (n.localName.toList ++ r)))

variable {n m : ExpandedName} {r s us vs cs ds : List Char}

theorem exists_begins (n : ExpandedName) (r : List Char) :
    ∃ us cs, n.Begins r us cs ∧ n.text.toList ++ r = us ++ cs := by
  obtain ⟨_ | u, l⟩ := n
  · exact ⟨_, _, .bare rfl, rfl⟩
  · by_cases hu : u = Namespace.schema
    · subst hu
      exact ⟨_, _, .builtin rfl, by simp [text]⟩
    · exact ⟨_, _, .inNamespace rfl, by simp [text, hu]⟩

theorem isName_braced : IsName "Q".toList := by decide

theorem Begins.parts (hn : n.IsShown) (hr : Follows r) (h : n.Begins r us cs) :
    (∀ c ∈ us, isNamePart c = true) ∧ ∀ c ∈ cs.head?, isNamePart c = false := by
  cases h with
  | bare => exact ⟨Declaration.Token.isNamePart_of_isName hn.localName, fun c hc => (hr c hc).1⟩
  | builtin =>
    refine ⟨Declaration.Token.isNamePart_of_isName isName_prefix, ?_⟩
    rintro _ ⟨⟩
    exact not_isNamePart_of_separator rfl
  | inNamespace =>
    refine ⟨Declaration.Token.isNamePart_of_isName isName_braced, ?_⟩
    rintro _ ⟨⟩
    exact not_isNamePart_of_separator rfl

theorem eq_of_localName (hn : n.IsShown) (hm : m.IsShown) (hr : Follows r) (hs : Follows s)
    (hns : n.ns = m.ns) (h : n.localName.toList ++ r = m.localName.toList ++ s) :
    n = m ∧ r = s := by
  obtain ⟨hlocal, rfl⟩ := cut_after_parts (Declaration.Token.isNamePart_of_isName hn.localName)
    (Declaration.Token.isNamePart_of_isName hm.localName) (fun c hc => (hr c hc).1)
    (fun c hc => (hs c hc).1) h
  obtain ⟨u, l⟩ := n
  obtain ⟨v, l'⟩ := m
  obtain rfl : u = v := hns
  obtain rfl : l = l' := String.toList_inj.1 hlocal
  exact ⟨rfl, rfl⟩

theorem Begins.inj (hn : n.IsShown) (hm : m.IsShown) (hr : Follows r) (hs : Follows s)
    (h : n.Begins r us cs) (h' : m.Begins s vs ds) (hus : us = vs) (hcs : cs = ds) :
    n = m ∧ r = s := by
  cases h with
  | bare hnone =>
    cases h' with
    | bare hnone' =>
      exact eq_of_localName hn hm hr hs (hnone.trans hnone'.symm) (by rw [hus, hcs])
    | builtin => exact absurd rfl (hr ':' (by rw [hcs]; rfl)).2.1
    | inNamespace => exact absurd rfl (hr '\x7b' (by rw [hcs]; rfl)).2.2
  | builtin hschema =>
    cases h' with
    | bare => exact absurd rfl (hs ':' (by rw [← hcs]; rfl)).2.1
    | builtin hschema' =>
      exact eq_of_localName hn hm hr hs (hschema.trans hschema'.symm)
        (List.tail_eq_of_cons_eq hcs)
    | inNamespace => exact absurd hus (by decide)
  | inNamespace hns =>
    cases h' with
    | bare => exact absurd rfl (hs '\x7b' (by rw [← hcs]; rfl)).2.2
    | builtin => exact absurd hus (by decide)
    | inNamespace hns' =>
      obtain ⟨hsame, hlocal⟩ :=
        cut_at_mark (hn.ns _ hns) (hm.ns _ hns') (List.tail_eq_of_cons_eq hcs)
      rw [← String.toList_inj.1 hsame] at hns'
      exact eq_of_localName hn hm hr hs (hns.trans hns'.symm) hlocal

/-- What begins with the text of a name shows the name. -/
theorem text_append_inj (hn : n.IsShown) (hm : m.IsShown) (hr : Follows r) (hs : Follows s)
    (h : n.text.toList ++ r = m.text.toList ++ s) : n = m ∧ r = s := by
  obtain ⟨us, cs, hbegins, hcut⟩ := exists_begins n r
  obtain ⟨vs, ds, hbegins', hcut'⟩ := exists_begins m s
  obtain ⟨hus, hcs⟩ := hbegins.parts hn hr
  obtain ⟨hvs, hds⟩ := hbegins'.parts hm hs
  obtain ⟨hparts, hrest⟩ := cut_after_parts hus hvs hcs hds (by rw [← hcut, h, hcut'])
  exact hbegins.inj hn hm hr hs hbegins' hparts hrest

theorem text_inj (hn : n.IsShown) (hm : m.IsShown) (h : n.text = m.text) : n = m := by
  have hnil : Follows [] := nofun
  exact (text_append_inj hn hm hnil hnil (by rw [h])).1

theorem exists_head?_text (hn : n.IsShown) (r : List Char) :
    ∃ c, (n.text.toList ++ r).head? = some c ∧ isNamePart c = true := by
  obtain ⟨us, cs, hbegins, hcut⟩ := exists_begins n r
  rw [hcut]
  cases hbegins with
  | bare =>
    obtain ⟨c, l, hl, hstart, -⟩ := Declaration.Token.exists_cons_of_isName hn.localName
    exact ⟨c, by rw [hl]; rfl, Declaration.Token.isNamePart_of_isNameStart hstart⟩
  | builtin => exact ⟨'x', rfl, Declaration.Token.isNamePart_of_isName isName_prefix _ (by simp)⟩
  | inNamespace =>
    exact ⟨'Q', rfl, Declaration.Token.isNamePart_of_isName isName_braced _ (by simp)⟩

end ExpandedName

/-! ### Tests of a name and a type -/

section NameTest

variable {n n' t t' : Option ExpandedName} {nillable nillable' : Bool}

/-- The text of the type after that of the name. -/
def typeText : Option ExpandedName → Bool → List Char
  | none, _ => []
  | some t, nillable => ',' :: ' ' :: (t.text.toList ++ if nillable then ['?'] else [])

theorem nameTestText_none (nillable : Bool) : (nameTestText none none nillable).toList = [] := rfl

theorem nameTestText_wildcard (t : ExpandedName) (nillable : Bool) :
    (nameTestText none (some t) nillable).toList = '*' :: typeText (some t) nillable := by
  rw [nameTestText_typed]
  cases nillable <;> simp [typeText]

theorem nameTestText_named (n : ExpandedName) (t : Option ExpandedName) (nillable : Bool) :
    (nameTestText (some n) t nillable).toList = n.text.toList ++ typeText t nillable := by
  cases t with
  | none => simp [nameTestText_untyped, typeText]
  | some t =>
    rw [nameTestText_typed]
    cases nillable <;> simp [typeText]

/-- The names are shown, and only a type can be nillable. -/
structure IsShownTest (n t : Option ExpandedName) (nillable : Bool) : Prop where
  name : ∀ m ∈ n, m.IsShown
  type : ∀ m ∈ t, m.IsShown
  nillable : t = none → nillable = false

theorem follows_typeText (t : Option ExpandedName) (nillable : Bool) :
    ExpandedName.Follows (typeText t nillable) := by
  cases t with
  | none => exact nofun
  | some t =>
    rintro _ ⟨⟩
    exact ⟨not_isNamePart_of_separator rfl, by decide, by decide⟩

theorem typeText_inj (h : IsShownTest n t nillable) (h' : IsShownTest n' t' nillable')
    (heq : typeText t nillable = typeText t' nillable') : t = t' ∧ nillable = nillable' := by
  have hfollows (b : Bool) : ExpandedName.Follows (if b then ['?'] else []) := by
    cases b with
    | false => exact nofun
    | true =>
      rintro _ ⟨⟩
      exact ⟨not_isNamePart_of_separator rfl, by decide, by decide⟩
  cases t with
  | none =>
    cases t' with
    | none => exact ⟨rfl, (h.nillable rfl).trans (h'.nillable rfl).symm⟩
    | some => cases heq
  | some t =>
    cases t' with
    | none => cases heq
    | some t' =>
      have htext := List.tail_eq_of_cons_eq (List.tail_eq_of_cons_eq heq)
      obtain ⟨rfl, hmark⟩ := ExpandedName.text_append_inj (h.type t rfl) (h'.type t' rfl)
        (hfollows nillable) (hfollows nillable') htext
      refine ⟨rfl, ?_⟩
      cases nillable <;> cases nillable' <;> first | rfl | cases hmark

/-- A text that begins with a name does not begin with an asterisk. -/
theorem text_append_ne_nameTestText {m : ExpandedName} (hm : m.IsShown) (r : List Char)
    (t : Option ExpandedName) (nillable : Bool) :
    m.text.toList ++ r ≠ (nameTestText none t nillable).toList := by
  intro heq
  obtain ⟨c, hhead, hc⟩ := ExpandedName.exists_head?_text hm r
  rw [heq] at hhead
  cases t with
  | none => cases hhead
  | some t =>
    rw [nameTestText_wildcard] at hhead
    obtain rfl := Option.some.inj hhead
    cases hc.symm.trans (not_isNamePart_of_separator rfl)

theorem nameTestText_inj (h : IsShownTest n t nillable) (h' : IsShownTest n' t' nillable')
    (heq : nameTestText n t nillable = nameTestText n' t' nillable') :
    n = n' ∧ t = t' ∧ nillable = nillable' := by
  have hlist := congrArg String.toList heq
  cases n with
  | some n =>
    rw [nameTestText_named] at hlist
    cases n' with
    | none => exact (text_append_ne_nameTestText (h.name n rfl) _ _ _ hlist).elim
    | some n' =>
      rw [nameTestText_named] at hlist
      obtain ⟨rfl, htype⟩ := ExpandedName.text_append_inj (h.name n rfl) (h'.name n' rfl)
        (follows_typeText t nillable) (follows_typeText t' nillable') hlist
      exact ⟨rfl, typeText_inj h h' htype⟩
  | none =>
    cases n' with
    | some n' =>
      rw [nameTestText_named] at hlist
      exact (text_append_ne_nameTestText (h'.name n' rfl) _ _ _ hlist.symm).elim
    | none =>
      refine ⟨rfl, typeText_inj h h' ?_⟩
      cases t <;> cases t' <;> simp only [nameTestText_none, nameTestText_wildcard] at hlist
      · rfl
      · cases hlist
      · cases hlist
      · exact List.tail_eq_of_cons_eq hlist

end NameTest

/-! ### Words before parentheses -/

/-- The words that stand before the parenthesis in the text of a type. -/
inductive Keyword where
  | emptySequence | item | node | text | comment | processingInstruction | documentNode
  | element | attributeNode | schemaElement | schemaAttribute
deriving DecidableEq

namespace Keyword

def all : List Keyword :=
  [emptySequence, item, node, text, comment, processingInstruction, documentNode, element,
    attributeNode, schemaElement, schemaAttribute]

theorem mem_all (k : Keyword) : k ∈ all := by
  cases k <;> decide

def word : Keyword → String
  | emptySequence => "empty-sequence"
  | item => "item"
  | node => "node"
  | text => "text"
  | comment => "comment"
  | processingInstruction => "processing-instruction"
  | documentNode => "document-node"
  | element => "element"
  | attributeNode => "attribute"
  | schemaElement => "schema-element"
  | schemaAttribute => "schema-attribute"

/-- The text with the word before parentheses. -/
def textOf (k : Keyword) (inside : String) : String := k.word ++ "(" ++ inside ++ ")"

variable {k k' : Keyword} {inside inside' : String}

theorem toList_textOf (k : Keyword) (inside : String) :
    (k.textOf inside).toList = k.word.toList ++ '(' :: (inside.toList ++ [')']) := by
  simp [textOf]

theorem textOf_inj (h : k.textOf inside = k'.textOf inside') : k = k' ∧ inside = inside' := by
  have hparen : ∀ k ∈ all, '(' ∉ k.word.toList := by decide
  have hwords : ∀ k ∈ all, ∀ k' ∈ all, k.word.toList = k'.word.toList → k = k' := by decide
  have hlist := congrArg String.toList h
  rw [toList_textOf, toList_textOf] at hlist
  obtain ⟨hword, hinside⟩ := cut_at_mark (hparen k k.mem_all) (hparen k' k'.mem_all) hlist
  exact ⟨hwords k k.mem_all k' k'.mem_all hword,
    String.toList_inj.1 (List.append_cancel_right hinside)⟩

/-- The text ends with the parenthesis. -/
theorem getLast?_textOf (k : Keyword) (inside : String) :
    ∀ c ∈ (k.textOf inside).toList.getLast?, c ∉ ['?', '+', '*'] := by
  rw [toList_textOf, ← List.cons_append, ← List.append_assoc, List.getLast?_concat]
  rintro _ ⟨⟩
  decide

end Keyword

/-! ### Tests -/

namespace ElementTest

/-- The names are shown. -/
def IsShown : ElementTest → Prop
  | test n t nillable => IsShownTest n t nillable
  | declared n => n.IsShown

/-- The word of the text and what stands in the parentheses. -/
inductive Shows : ElementTest → Keyword → String → Prop
  | test (n t : Option ExpandedName) (nillable : Bool) :
      Shows (.test n t nillable) .element (nameTestText n t nillable)
  | declared (n : ExpandedName) : Shows (.declared n) .schemaElement n.text

variable {e e' : ElementTest} {k : Keyword} {inside inside' : String}

theorem exists_shows (e : ElementTest) :
    ∃ k inside, e.Shows k inside ∧ e.text = k.textOf inside := by
  cases e with
  | test n t nillable => exact ⟨_, _, .test n t nillable, rfl⟩
  | declared n => exact ⟨_, _, .declared n, rfl⟩

theorem Shows.inj (he : e.IsShown) (he' : e'.IsShown) (h : e.Shows k inside)
    (h' : e'.Shows k inside') (heq : inside = inside') : e = e' := by
  cases h with
  | test =>
    cases h' with
    | test =>
      obtain ⟨rfl, rfl, rfl⟩ := nameTestText_inj he he' heq
      rfl
  | declared =>
    cases h' with
    | declared => rw [ExpandedName.text_inj he he' heq]

theorem text_inj (he : e.IsShown) (he' : e'.IsShown) (h : e.text = e'.text) : e = e' := by
  obtain ⟨k, inside, hshows, htext⟩ := exists_shows e
  obtain ⟨k', inside', hshows', htext'⟩ := exists_shows e'
  obtain ⟨rfl, hinside⟩ := Keyword.textOf_inj (htext.symm.trans (h.trans htext'))
  exact hshows.inj he he' hshows' hinside

end ElementTest

namespace AttributeTest

/-- The names are shown. -/
def IsShown : AttributeTest → Prop
  | test n t => IsShownTest n t false
  | declared n => n.IsShown

/-- The word of the text and what stands in the parentheses. -/
inductive Shows : AttributeTest → Keyword → String → Prop
  | test (n t : Option ExpandedName) :
      Shows (.test n t) .attributeNode (nameTestText n t false)
  | declared (n : ExpandedName) : Shows (.declared n) .schemaAttribute n.text

variable {a a' : AttributeTest} {k : Keyword} {inside inside' : String}

theorem exists_shows (a : AttributeTest) :
    ∃ k inside, a.Shows k inside ∧ a.text = k.textOf inside := by
  cases a with
  | test n t => exact ⟨_, _, .test n t, rfl⟩
  | declared n => exact ⟨_, _, .declared n, rfl⟩

theorem Shows.inj (ha : a.IsShown) (ha' : a'.IsShown) (h : a.Shows k inside)
    (h' : a'.Shows k inside') (heq : inside = inside') : a = a' := by
  cases h with
  | test =>
    cases h' with
    | test =>
      obtain ⟨rfl, rfl, -⟩ := nameTestText_inj ha ha' heq
      rfl
  | declared =>
    cases h' with
    | declared => rw [ExpandedName.text_inj ha ha' heq]

end AttributeTest

namespace ItemTest

/-- The names are shown. Those of atomic types always are. -/
def IsShown : ItemTest → Prop
  | element e => e.IsShown
  | attributeNode a => a.IsShown
  | document e => ∀ f ∈ e, f.IsShown
  | _ => True

/-- The word of the text and what stands in the parentheses, for all tests but those for an atomic
type. -/
inductive Shows : ItemTest → Keyword → String → Prop
  | anyItem : Shows .anyItem .item ""
  | anyNode : Shows .anyNode .node ""
  | textNode : Shows .textNode .text ""
  | comment : Shows .comment .comment ""
  | processingInstruction (t : Option String) :
      Shows (.processingInstruction t) .processingInstruction (t.getD "")
  | document (e : Option ElementTest) :
      Shows (.document e) .documentNode ((e.map ElementTest.text).getD "")
  | element {e : ElementTest} {k : Keyword} {inside : String} (h : e.Shows k inside) :
      Shows (.element e) k inside
  | attributeNode {a : AttributeTest} {k : Keyword} {inside : String} (h : a.Shows k inside) :
      Shows (.attributeNode a) k inside

/-- The test without a target that is empty, which the text does not show. -/
def shown : ItemTest → ItemTest
  | processingInstruction t => processingInstruction (t.filter fun s => s != "")
  | i => i

variable {i i' : ItemTest} {k : Keyword} {inside inside' : String}

theorem text_processingInstruction (t : Option String) :
    (processingInstruction t).text = Keyword.processingInstruction.textOf (t.getD "") := rfl

/-- A test is one for an atomic type or has a text with parentheses. -/
theorem atomic_or_shows (i : ItemTest) :
    (∃ a, i = .atomic a) ∨ ∃ k inside, i.Shows k inside ∧ i.text = k.textOf inside := by
  cases i with
  | atomic a => exact .inl ⟨a, rfl⟩
  | anyItem => exact .inr ⟨_, _, .anyItem, rfl⟩
  | anyNode => exact .inr ⟨_, _, .anyNode, rfl⟩
  | textNode => exact .inr ⟨_, _, .textNode, rfl⟩
  | comment => exact .inr ⟨_, _, .comment, rfl⟩
  | processingInstruction t =>
    exact .inr ⟨_, _, .processingInstruction t, text_processingInstruction t⟩
  | document e => exact .inr ⟨_, _, .document e, rfl⟩
  | element e =>
    obtain ⟨k, inside, hshows, htext⟩ := e.exists_shows
    exact .inr ⟨k, inside, .element hshows, htext⟩
  | attributeNode a =>
    obtain ⟨k, inside, hshows, htext⟩ := a.exists_shows
    exact .inr ⟨k, inside, .attributeNode hshows, htext⟩

theorem shown_target_inj {t t' : Option String} (h : t.getD "" = t'.getD "") :
    (processingInstruction t).shown = (processingInstruction t').shown := by
  have hfilter (t : Option String) : t.filter (fun s => s != "") =
      if t.getD "" = "" then none else some (t.getD "") := by
    cases t with
    | none => rfl
    | some s => by_cases hs : s = "" <;> simp [Option.filter, hs]
  rw [shown, shown, hfilter, hfilter, h]

theorem document_inj {e e' : Option ElementTest} (he : ∀ f ∈ e, f.IsShown)
    (he' : ∀ f ∈ e', f.IsShown)
    (h : (e.map ElementTest.text).getD "" = (e'.map ElementTest.text).getD "") : e = e' := by
  have hne (f : ElementTest) : f.text ≠ "" := by
    obtain ⟨k, inside, -, htext⟩ := f.exists_shows
    intro hempty
    have hlist := congrArg String.toList (htext.symm.trans hempty)
    rw [Keyword.toList_textOf] at hlist
    simp at hlist
  cases e with
  | none =>
    cases e' with
    | none => rfl
    | some f' => exact absurd h.symm (hne f')
  | some f =>
    cases e' with
    | none => exact absurd h (hne f)
    | some f' => rw [ElementTest.text_inj (he f rfl) (he' f' rfl) h]

theorem Shows.inj (hi : i.IsShown) (hi' : i'.IsShown) (h : i.Shows k inside)
    (h' : i'.Shows k inside') (heq : inside = inside') : i.shown = i'.shown := by
  cases h with
  | anyItem =>
    cases h' with
    | anyItem => rfl
    | element h' | attributeNode h' => cases h'
  | anyNode =>
    cases h' with
    | anyNode => rfl
    | element h' | attributeNode h' => cases h'
  | textNode =>
    cases h' with
    | textNode => rfl
    | element h' | attributeNode h' => cases h'
  | comment =>
    cases h' with
    | comment => rfl
    | element h' | attributeNode h' => cases h'
  | processingInstruction t =>
    cases h' with
    | processingInstruction t' => exact shown_target_inj heq
    | element h' | attributeNode h' => cases h'
  | document e =>
    cases h' with
    | document e' => rw [document_inj hi hi' heq]
    | element h' | attributeNode h' => cases h'
  | element h =>
    cases h' with
    | element h' => rw [h.inj hi hi' h' heq]
    | attributeNode h' => cases h <;> cases h'
    | _ => cases h
  | attributeNode h =>
    cases h' with
    | attributeNode h' => rw [h.inj hi hi' h' heq]
    | element h' => cases h <;> cases h'
    | _ => cases h

theorem text_atomic (a : AtomicType) : (atomic a).text = a.name.text := rfl

theorem isShown_name (a : AtomicType) : a.name.IsShown where
  ns := by
    rintro _ ⟨⟩
    exact ExpandedName.not_mem_schema
  localName := (isWritable_name a).localName

theorem atomic_text_inj {a a' : AtomicType} (h : (atomic a).text = (atomic a').text) : a = a' := by
  have hname : a.name = a'.name := ExpandedName.text_inj (isShown_name a) (isShown_name a') h
  have hfound := a.ofName?_name
  rw [hname, a'.ofName?_name] at hfound
  exact (Option.some.inj hfound).symm

/-- No text of an atomic type has a mark other than the colon. -/
theorem not_separator_of_mem_atomic {a : AtomicType} {c : Char} (hc : c ∈ (atomic a).text.toList)
    (hcolon : c ≠ ':') : Declaration.Token.separator.contains c ≠ true := by
  have hpart : isNamePart c = true := by
    have htext : (atomic a).text.toList = "xs".toList ++ ':' :: a.localName.toList := by
      simp [text_atomic, AtomicType.name, ExpandedName.text, ExpandedName.schema,
        ExpandedName.inNamespace]
    rw [htext] at hc
    rcases List.mem_append.1 hc with hc | hc
    · exact Declaration.Token.isNamePart_of_isName ExpandedName.isName_prefix c hc
    · exact Declaration.Token.isNamePart_of_isName (isShown_name a).localName c
        (List.mem_of_ne_of_mem hcolon hc)
  intro hseparator
  cases hpart.symm.trans (not_isNamePart_of_separator hseparator)

theorem atomic_text_ne (a : AtomicType) (k : Keyword) (inside : String) :
    (atomic a).text ≠ k.textOf inside := by
  intro h
  have hparen : '(' ∈ (atomic a).text.toList := by
    rw [h, Keyword.toList_textOf]
    simp
  exact not_separator_of_mem_atomic hparen (by decide) rfl

/-- Tests with the same text are the same but for an empty target. -/
theorem text_inj (hi : i.IsShown) (hi' : i'.IsShown) (h : i.text = i'.text) :
    i.shown = i'.shown := by
  rcases atomic_or_shows i with ⟨a, rfl⟩ | ⟨k, inside, hshows, htext⟩
  · rcases atomic_or_shows i' with ⟨a', rfl⟩ | ⟨k', inside', -, htext'⟩
    · rw [atomic_text_inj h]
    · exact absurd (h.trans htext') (atomic_text_ne a k' inside')
  · rcases atomic_or_shows i' with ⟨a', rfl⟩ | ⟨k', inside', hshows', htext'⟩
    · exact absurd (h.symm.trans htext) (atomic_text_ne a' k inside)
    · obtain ⟨rfl, hinside⟩ := Keyword.textOf_inj (htext.symm.trans (h.trans htext'))
      exact hshows.inj hi hi' hshows' hinside

theorem text_shown (i : ItemTest) : i.shown.text = i.text := by
  cases i with
  | processingInstruction t =>
    have hsame : (t.filter fun s => s != "").getD "" = t.getD "" := by
      cases t with
      | none => rfl
      | some s => by_cases hs : s = "" <;> simp [Option.filter, hs]
    rw [shown, text_processingInstruction, text_processingInstruction, hsame]
  | _ => simp only [shown]

/-- The text of no test ends as that of an occurrence does. -/
theorem getLast?_text (i : ItemTest) : ∀ c ∈ i.text.toList.getLast?, c ∉ ['?', '+', '*'] := by
  rcases atomic_or_shows i with ⟨a, rfl⟩ | ⟨k, inside, -, htext⟩
  · intro c hc hmark
    have hnot := not_separator_of_mem_atomic (List.mem_of_getLast? hc)
    simp only [List.mem_cons, List.not_mem_nil, or_false] at hmark
    rcases hmark with rfl | rfl | rfl <;> exact hnot (by decide) rfl
  · rw [htext]
    exact Keyword.getLast?_textOf k inside

end ItemTest

/-! ### Inferred types -/

namespace Occurrence

variable {o o' : Occurrence} {us vs : List Char}

/-- The last character of a text with an occurrence shows the occurrence. -/
theorem filter_getLast? (hus : ∀ c ∈ us.getLast?, c ∉ ['?', '+', '*']) (o : Occurrence) :
    (us ++ o.indicator.toList).getLast?.filter (fun c => c ∈ ['?', '+', '*']) =
      o.indicator.toList.getLast? := by
  cases o with
  | one =>
    change (us ++ []).getLast?.filter _ = none
    rw [List.append_nil]
    cases hlast : us.getLast? with
    | none => rfl
    | some c => simpa [Option.filter] using hus c hlast
  | zeroOrOne =>
    change (us ++ ['?']).getLast?.filter _ = _
    rw [List.getLast?_concat]
    rfl
  | oneOrMore =>
    change (us ++ ['+']).getLast?.filter _ = _
    rw [List.getLast?_concat]
    rfl
  | zeroOrMore =>
    change (us ++ ['*']).getLast?.filter _ = _
    rw [List.getLast?_concat]
    rfl

theorem indicator_inj (hus : ∀ c ∈ us.getLast?, c ∉ ['?', '+', '*'])
    (hvs : ∀ c ∈ vs.getLast?, c ∉ ['?', '+', '*'])
    (h : us ++ o.indicator.toList = vs ++ o'.indicator.toList) : us = vs ∧ o = o' := by
  have hlast : o.indicator.toList.getLast? = o'.indicator.toList.getLast? := by
    rw [← filter_getLast? hus o, h, filter_getLast? hvs o']
  obtain rfl : o = o' := by
    cases o <;> cases o' <;> first | rfl | exact absurd hlast (by decide)
  exact ⟨List.append_cancel_right h, rfl⟩

end Occurrence

namespace SequenceType

/-- The type without a target that is empty, which the text does not show. -/
def shown : SequenceType → SequenceType
  | empty => empty
  | typed i o => typed ⟨i.test.shown, i.native⟩ o

variable {e : ElementType} {i i' : ItemTest} {o o' : Occurrence}

theorem toList_text_typed (i : ItemTest) (e : ElementType) (o : Occurrence) :
    (typed ⟨i, e⟩ o).text.toList = i.text.toList ++ o.indicator.toList := String.toList_append

theorem text_empty_ne (i : ItemTest) (e : ElementType) (o : Occurrence) :
    empty.text ≠ (typed ⟨i, e⟩ o).text := by
  intro h
  have hlist : empty.text.toList ++ Occurrence.one.indicator.toList =
      i.text.toList ++ o.indicator.toList := by
    rw [← toList_text_typed i e, ← h]
    exact List.append_nil _
  obtain ⟨htest, rfl⟩ := Occurrence.indicator_inj
    (Keyword.getLast?_textOf .emptySequence "") i.getLast?_text hlist
  have htest : Keyword.emptySequence.textOf "" = i.text := String.toList_inj.1 htest
  rcases i.atomic_or_shows with ⟨a, rfl⟩ | ⟨k, inside, hshows, htext⟩
  · exact ItemTest.atomic_text_ne a _ _ htest.symm
  · obtain ⟨rfl, -⟩ := Keyword.textOf_inj (htest.trans htext)
    cases hshows with
    | element h => cases h
    | attributeNode h => cases h

theorem text_typed_inj (hi : i.IsShown) (hi' : i'.IsShown)
    (h : (typed ⟨i, e⟩ o).text = (typed ⟨i', e⟩ o').text) :
    (typed ⟨i, e⟩ o).shown = (typed ⟨i', e⟩ o').shown := by
  have hlist := congrArg String.toList h
  rw [toList_text_typed, toList_text_typed] at hlist
  obtain ⟨htest, rfl⟩ := Occurrence.indicator_inj i.getLast?_text i'.getLast?_text hlist
  have hshown := ItemTest.text_inj hi hi' (String.toList_inj.1 htest)
  rw [shown, shown, hshown]

theorem text_shown (t : SequenceType) : t.shown.text = t.text := by
  cases t with
  | empty => rfl
  | typed i o => exact congrArg (· ++ o.indicator) i.test.text_shown

end SequenceType

/-! ### Names of inferred types -/

section Resolved

open Declaration (Token)

variable {ns : Namespaces} {text : String} {ts : List Token}
  (hns : ∀ b ∈ ns.entries, '\x7d' ∉ b.2.toList)
include hns

theorem isShown_of_resolveName {implied : Option String} {n : LexicalName} {m : ExpandedName}
    (hi : ∀ u ∈ implied, '\x7d' ∉ u.toList) (hn : IsName n.localName.toList)
    (h : Declaration.resolveName ns text implied n = .ok m) : m.IsShown := by
  refine ⟨?_, by rwa [(of_resolveName h).1]⟩
  unfold Declaration.resolveName at h
  split at h
  case h_1 =>
    obtain rfl := Except.ok.inj h
    exact hi
  case h_2 p hp =>
    split at h
    case h_1 u hu =>
      obtain rfl := Except.ok.inj h
      rintro _ ⟨⟩
      obtain ⟨before, after, hentries, -⟩ := List.lookup_eq_some_iff.1 hu
      exact hns (p, u) (by simp [hentries])
    case h_2 => cases h

theorem isShown_of_resolveNameTest {n : Declaration.NameTest} {o : Option ExpandedName}
    (hd : n.Derives ts) (hts : Token.AreNamed ts)
    (h : Declaration.resolveNameTest ns text n = .ok o) : ∀ m ∈ o, m.IsShown := by
  cases hd with
  | wildcard =>
    cases h
    exact nofun
  | named n =>
    obtain ⟨m, hm, rfl⟩ := Outcome.map_eq_ok_iff.1 h
    rintro _ ⟨⟩
    exact isShown_of_resolveName hns (by nofun) (hts n (by simp)) hm

theorem isShown_of_resolveTypeName {n : LexicalName} {m : ExpandedName}
    (hn : IsName n.localName.toList) (h : Declaration.resolveTypeName ns text n = .ok m) :
    m.IsShown := by
  refine isShown_of_resolveName hns ?_ hn h
  rintro _ ⟨⟩
  exact ExpandedName.not_mem_schema

/-- A name test and the type after it. -/
theorem isShownTest_of_typed {n : Declaration.NameTest} {us vs : List Token} {t : LexicalName}
    {o : Option ExpandedName} {m : ExpandedName} (hn : n.Derives us)
    (hts : Token.AreNamed (us ++ .comma :: .name t :: vs))
    (ho : Declaration.resolveNameTest ns text n = .ok o)
    (hm : Declaration.resolveTypeName ns text t = .ok m) (nillable : Bool) :
    IsShownTest o (some m) nillable where
  name := isShown_of_resolveNameTest hns hn hts.left ho
  type := by
    rintro _ ⟨⟩
    exact isShown_of_resolveTypeName hns (hts t (by simp)) hm
  nillable := nofun

theorem isShownTest_of_untyped {n : Declaration.NameTest} {o : Option ExpandedName}
    (hn : n.Derives ts) (hts : Token.AreNamed ts)
    (ho : Declaration.resolveNameTest ns text n = .ok o) : IsShownTest o none false where
  name := isShown_of_resolveNameTest hns hn hts ho
  type := nofun
  nillable _ := rfl

theorem ElementTest.isShown_of_resolve {d : Declaration.ElementTest} {e : ElementTest}
    (hd : d.Derives ts) (hts : Token.AreNamed ts) (h : d.resolve ns text = .ok e) : e.IsShown := by
  have htyped {n : Declaration.NameTest} {us vs : List Token} {t : LexicalName} {nillable : Bool}
      (hn : n.Derives us) (hts : Token.AreNamed (us ++ .comma :: .name t :: vs))
      (h : Declaration.ElementTest.resolve ns text (.test n (some ⟨t, nillable⟩)) = .ok e) :
      e.IsShown := by
    obtain ⟨o, ho, hrest⟩ := Outcome.bind_eq_ok_iff.1 h
    obtain ⟨m, hm, hrest⟩ := Outcome.bind_eq_ok_iff.1 hrest
    obtain rfl := Except.ok.inj hrest
    exact isShownTest_of_typed hns hn hts ho hm nillable
  cases hd with
  | anything =>
    obtain rfl := Except.ok.inj h
    exact ⟨nofun, nofun, fun _ => rfl⟩
  | untyped hn =>
    obtain ⟨o, ho, hrest⟩ := Outcome.bind_eq_ok_iff.1 h
    obtain rfl := Except.ok.inj hrest
    exact isShownTest_of_untyped hns hn hts.inside ho
  | typed hn t => exact htyped hn hts.inside h
  | nillable hn t => exact htyped hn hts.inside h
  | declared n =>
    obtain ⟨m, hm, hrest⟩ := Outcome.bind_eq_ok_iff.1 h
    obtain rfl := Except.ok.inj hrest
    exact isShown_of_resolveName hns (by nofun) (hts.inside n (by simp)) hm

theorem AttributeTest.isShown_of_resolve {d : Declaration.AttributeTest} {a : AttributeTest}
    (hd : d.Derives ts) (hts : Token.AreNamed ts) (h : d.resolve ns text = .ok a) : a.IsShown := by
  cases hd with
  | anything =>
    obtain rfl := Except.ok.inj h
    exact ⟨nofun, nofun, fun _ => rfl⟩
  | untyped hn =>
    obtain ⟨o, ho, hrest⟩ := Outcome.bind_eq_ok_iff.1 h
    obtain rfl := Except.ok.inj hrest
    exact isShownTest_of_untyped hns hn hts.inside ho
  | typed hn t =>
    obtain ⟨o, ho, hrest⟩ := Outcome.bind_eq_ok_iff.1 h
    obtain ⟨m, hm, hrest⟩ := Outcome.bind_eq_ok_iff.1 hrest
    obtain rfl := Except.ok.inj hrest
    exact isShownTest_of_typed hns hn hts.inside ho hm false
  | declared n =>
    obtain ⟨m, hm, hrest⟩ := Outcome.bind_eq_ok_iff.1 h
    obtain rfl := Except.ok.inj hrest
    exact isShown_of_resolveName hns (by nofun) (hts.inside n (by simp)) hm

theorem ItemTest.isShown_of_resolve {d : Declaration.ItemTest} {i : ItemTest}
    (hd : d.Derives ts) (hts : Token.AreNamed ts) (h : d.resolve ns text = .ok i) : i.IsShown := by
  cases hd with
  | document hd =>
    obtain ⟨e, he, hrest⟩ := Outcome.bind_eq_ok_iff.1 h
    obtain rfl := Except.ok.inj hrest
    rintro _ ⟨⟩
    exact ElementTest.isShown_of_resolve hns hd hts.inside he
  | anyDocument =>
    obtain rfl := Except.ok.inj h
    exact nofun
  | element hd =>
    obtain ⟨e, he, hrest⟩ := Outcome.bind_eq_ok_iff.1 h
    obtain rfl := Except.ok.inj hrest
    exact ElementTest.isShown_of_resolve hns hd hts he
  | attributeNode hd =>
    obtain ⟨a, ha, hrest⟩ := Outcome.bind_eq_ok_iff.1 h
    obtain rfl := Except.ok.inj hrest
    exact AttributeTest.isShown_of_resolve hns hd hts ha
  | atomic n =>
    obtain ⟨m, -, hrest⟩ := Outcome.bind_eq_ok_iff.1 h
    cases ha : AtomicType.ofName? m with
    | none => simp [ha] at hrest
    | some a =>
      simp only [ha] at hrest
      obtain rfl := Except.ok.inj hrest
      trivial
  | _ =>
    obtain rfl := Except.ok.inj h
    trivial

end Resolved

namespace SequenceType

variable {native : NativeType} {declared declared' : Option String} {ns ns' : Namespaces}
  {type type' : SequenceType}

theorem isShown_itemTest (e : ElementType) : e.itemTest.IsShown := by
  unfold ElementType.itemTest
  cases e.shape <;> trivial

theorem isShown_empty : ∀ i ∈ empty.item?, i.test.IsShown := by
  intro i hi
  cases hi

theorem isShown_of_infer (hns : ∀ b ∈ ns.entries, '\x7d' ∉ b.2.toList)
    (h : infer native declared ns = .ok type) : ∀ i ∈ type.item?, i.test.IsShown := by
  cases declared with
  | none =>
    obtain ⟨e, -, rfl⟩ := infer_none_eq_ok_iff.1 h
    unfold ofNative
    split
    case isTrue => exact isShown_empty
    case isFalse =>
      rintro _ ⟨⟩
      exact isShown_itemTest e
  | some text =>
    obtain ⟨e, -, d, hd, hresolve⟩ := infer_some_eq_ok_iff.1 h
    obtain ⟨ts, hts, hspaced⟩ := Declaration.read?_eq_some_iff.1 hd
    have hnamed := Declaration.Token.areNamed_of_spaced hspaced
    cases hts with
    | empty =>
      obtain ⟨-, rfl⟩ := ofDeclaration_empty_eq_ok_iff.1 hresolve
      exact isShown_empty
    | typed hi =>
      obtain ⟨test, htest, -, rfl⟩ := ofDeclaration_typed_eq_ok_iff.1 hresolve
      rintro _ ⟨⟩
      exact ItemTest.isShown_of_resolve hns hi hnamed.left htest

theorem shown_of_text (hns : ∀ b ∈ ns.entries, '\x7d' ∉ b.2.toList)
    (hns' : ∀ b ∈ ns'.entries, '\x7d' ∉ b.2.toList)
    (h : infer native declared ns = .ok type) (h' : infer native declared' ns' = .ok type')
    (htext : type.text = type'.text) : type.shown = type'.shown := by
  obtain ⟨e, he, hallowed⟩ := allowed_of_infer h
  obtain ⟨e', he', hallowed'⟩ := allowed_of_infer h'
  obtain rfl := Except.ok.inj (he.symm.trans he')
  have hshown := isShown_of_infer hns h
  have hshown' := isShown_of_infer hns' h'
  cases hallowed with
  | empty =>
    cases hallowed' with
    | empty => rfl
    | typed => exact (text_empty_ne _ _ _ htext).elim
  | typed =>
    cases hallowed' with
    | empty => exact (text_empty_ne _ _ _ htext.symm).elim
    | typed => exact text_typed_inj (hshown _ rfl) (hshown' _ rfl) htext

theorem shown_eq_self (h : ∀ t ∈ type.target?, t ≠ "") : type.shown = type := by
  cases type with
  | empty => rfl
  | typed i o =>
    obtain ⟨test, e⟩ := i
    refine congrArg (fun test => typed ⟨test, e⟩ o) ?_
    cases test with
    | processingInstruction t =>
      have hsame : t.filter (fun s => s != "") = t := by
        cases t with
        | none => rfl
        | some s => simpa [Option.filter] using h s rfl
      exact congrArg ItemTest.processingInstruction hsame
    | _ => rfl

/-- Texts of inferred types. Two types that are inferred for one native type, each with its own
declaration or none and with its own bindings, have the same text exactly if they are the same, an
empty target of processing instructions taken for none. So types without an empty target are the
same if their texts are. The namespaces that are bound have no closing brace. -/
theorem text_eq_iff (native : NativeType) (declared declared' : Option String)
    (ns ns' : Namespaces) (hns : ∀ b ∈ ns.entries, '\x7d' ∉ b.2.toList)
    (hns' : ∀ b ∈ ns'.entries, '\x7d' ∉ b.2.toList)
    (h : infer native declared ns = .ok type) (h' : infer native declared' ns' = .ok type') :
    (type.text = type'.text ↔ type.shown = type'.shown) ∧
    ((∀ t ∈ type.target?, t ≠ "") → (∀ t ∈ type'.target?, t ≠ "") →
      type.text = type'.text → type = type') := by
  refine ⟨⟨shown_of_text hns hns' h h', fun hshown => ?_⟩, fun ht ht' htext => ?_⟩
  · rw [← type.text_shown, hshown, type'.text_shown]
  · rw [← shown_eq_self ht, shown_of_text hns hns' h h' htext, shown_eq_self ht']

/-- A name is the same with any prefix for its namespace. -/
theorem text_eq_iff_prefixes :
    ∃ type type', infer (.single ⟨"node", .node, true⟩) (some "attribute(p:a)")
        (Namespaces.builtin.bind "p" "urn:n") = .ok type ∧
      infer (.single ⟨"node", .node, true⟩) (some "attribute( q:a )")
        (Namespaces.builtin.bind "q" "urn:n") = .ok type' ∧
      type.text = type'.text ∧ type = type' := by
  have h : infer (.single ⟨"node", .node, true⟩) (some "attribute(p:a)")
      (Namespaces.builtin.bind "p" "urn:n") = .ok (.typed ⟨.attributeNode (.test
        (some ⟨some "urn:n", "a"⟩) none), ⟨"node", .node, true⟩⟩ .one) := by
    decide +kernel
  have h' : infer (.single ⟨"node", .node, true⟩) (some "attribute( q:a )")
      (Namespaces.builtin.bind "q" "urn:n") = .ok (.typed ⟨.attributeNode (.test
        (some ⟨some "urn:n", "a"⟩) none), ⟨"node", .node, true⟩⟩ .one) := by
    decide +kernel
  have hall := text_eq_iff _ _ _ _ _ (by decide +kernel) (by decide +kernel) h h'
  exact ⟨_, _, h, h', hall.1.2 rfl, hall.2 (by decide) (by decide) rfl⟩

/-- An empty target is no part of the text, though no instruction that has a target passes then. -/
theorem text_of_empty_target :
    ∃ t t' o, infer (.single ⟨"node", .node, true⟩) (some "processing-instruction()") .builtin =
        .ok (.typed t o) ∧
      infer (.single ⟨"node", .node, true⟩) (some "processing-instruction(\"\")") .builtin =
        .ok (.typed t' o) ∧
      (typed t o).text = (typed t' o).text ∧ typed t o ≠ typed t' o ∧
      t.test.accepts (.ofTree (.leaf .processingInstruction (some ⟨none, "a", none⟩) "")) = true ∧
      t'.test.accepts (.ofTree (.leaf .processingInstruction (some ⟨none, "a", none⟩) "")) =
        false := by
  refine ⟨⟨.processingInstruction none, ⟨"node", .node, true⟩⟩,
    ⟨.processingInstruction (some ""), ⟨"node", .node, true⟩⟩, .one, by decide +kernel,
    by decide +kernel, by decide +kernel, by decide, by decide +kernel, by decide +kernel⟩

end SequenceType

end XPathExtension
