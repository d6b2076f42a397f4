import XPathExtension.Declaration.Token
import XPathExtension.Text.Blank

/-!
The grammar of declared sequence types. It has two levels: a declaration derives tokens, and tokens
are spelled by characters, with white space before, between and after them but not inside.
-/

namespace XPathExtension

/-- A text without the blanks around it. -/
structure Text.IsTrimmed (cs ts : List Char) : Prop where
  blanks : ∃ front back, cs = front ++ ts ++ back ∧ ∀ c ∈ front ++ back, isBlank c = true
  first : ∀ c ∈ ts.head?, isBlank c = false
  last : ∀ c ∈ ts.getLast?, isBlank c = false

namespace Declaration

/-- Names start with a letter or an underscore. -/
inductive IsName : List Char → Prop
  | mk {c : Char} {cs : List Char} (start : Text.isLetter c = true ∨ c = '_')
      (parts : ∀ d ∈ cs, Text.isLetter d = true ∨ Text.isDecimalDigit d = true ∨
        d = '_' ∨ d = '-' ∨ d = '.') : IsName (c :: cs)

namespace Token

/-- What a token is spelled with. -/
inductive Spelled : Token → List Char → Prop
  | localName {cs : List Char} (h : IsName cs) : Spelled (name ⟨none, String.ofList cs⟩) cs
  | qualifiedName {ps cs : List Char} (hp : IsName ps) (h : IsName cs) :
      Spelled (name ⟨some (String.ofList ps), String.ofList cs⟩) (ps ++ ':' :: cs)
  | doubleQuoted {cs : List Char} (h : '"' ∉ cs) : Spelled (literal cs) ('"' :: (cs ++ ['"']))
  | singleQuoted {cs : List Char} (h : '\'' ∉ cs) : Spelled (literal cs) ('\'' :: (cs ++ ['\'']))
  | leftParen : Spelled leftParen ['(']
  | rightParen : Spelled rightParen [')']
  | comma : Spelled comma [',']
  | questionMark : Spelled questionMark ['?']
  | asterisk : Spelled asterisk ['*']
  | plusSign : Spelled plusSign ['+']

/-- Tokens with white space between them. -/
inductive Spaced : List Token → List Char → Prop
  | nil : Spaced [] []
  | space {ts : List Token} {c : Char} {cs : List Char}
      (hc : c = ' ' ∨ c = '\t' ∨ c = '\r' ∨ c = '\n') (h : Spaced ts cs) : Spaced ts (c :: cs)
  | token {t : Token} {ts : List Token} {us cs : List Char} (ht : t.Spelled us)
      (h : Spaced ts cs) : Spaced (t :: ts) (us ++ cs)

end Token

/-- A word and what stands in the parentheses after it. -/
def parenthesized (word : String) (inside : List Token) : List Token :=
  .name ⟨none, word⟩ :: .leftParen :: (inside ++ [.rightParen])

inductive NameTest.Derives : NameTest → List Token → Prop
  | wildcard : Derives .wildcard [.asterisk]
  | named (n : LexicalName) : Derives (.named n) [.name n]

inductive ElementTest.Derives : ElementTest → List Token → Prop
  | anything : Derives .anything (parenthesized "element" [])
  | untyped {n : NameTest} {ts : List Token} (h : n.Derives ts) :
      Derives (.test n none) (parenthesized "element" ts)
  | typed {n : NameTest} {ts : List Token} (h : n.Derives ts) (t : LexicalName) :
      Derives (.test n (some ⟨t, false⟩)) (parenthesized "element" (ts ++ [.comma, .name t]))
  | nillable {n : NameTest} {ts : List Token} (h : n.Derives ts) (t : LexicalName) :
      Derives (.test n (some ⟨t, true⟩))
        (parenthesized "element" (ts ++ [.comma, .name t, .questionMark]))
  | declared (n : LexicalName) :
      Derives (.declared n) (parenthesized "schema-element" [.name n])

inductive AttributeTest.Derives : AttributeTest → List Token → Prop
  | anything : Derives .anything (parenthesized "attribute" [])
  | untyped {n : NameTest} {ts : List Token} (h : n.Derives ts) :
      Derives (.test n none) (parenthesized "attribute" ts)
  | typed {n : NameTest} {ts : List Token} (h : n.Derives ts) (t : LexicalName) :
      Derives (.test n (some t)) (parenthesized "attribute" (ts ++ [.comma, .name t]))
  | declared (n : LexicalName) :
      Derives (.declared n) (parenthesized "schema-attribute" [.name n])

/-- The target of a processing instruction: none, a name without a prefix, or a literal, which is
trimmed. -/
inductive TargetDerives : Option String → List Token → Prop
  | none : TargetDerives none []
  | name (l : String) : TargetDerives (some l) [.name ⟨Option.none, l⟩]
  | literal {cs ts : List Char} (h : Text.IsTrimmed cs ts) :
      TargetDerives (some (String.ofList ts)) [.literal cs]

inductive ItemTest.Derives : ItemTest → List Token → Prop
  | anyItem : Derives .anyItem (parenthesized "item" [])
  | anyNode : Derives .anyNode (parenthesized "node" [])
  | textNode : Derives .textNode (parenthesized "text" [])
  | comment : Derives .comment (parenthesized "comment" [])
  | processingInstruction {t : Option String} {ts : List Token} (h : TargetDerives t ts) :
      Derives (.processingInstruction t) (parenthesized "processing-instruction" ts)
  | anyDocument : Derives (.document none) (parenthesized "document-node" [])
  | document {e : ElementTest} {ts : List Token} (h : e.Derives ts) :
      Derives (.document (some e)) (parenthesized "document-node" ts)
  | element {e : ElementTest} {ts : List Token} (h : e.Derives ts) : Derives (.element e) ts
  | attributeNode {a : AttributeTest} {ts : List Token} (h : a.Derives ts) :
      Derives (.attributeNode a) ts
  | atomic (n : LexicalName) : Derives (.atomic n) [.name n]

inductive OccurrenceDerives : Occurrence → List Token → Prop
  | one : OccurrenceDerives .one []
  | zeroOrOne : OccurrenceDerives .zeroOrOne [.questionMark]
  | oneOrMore : OccurrenceDerives .oneOrMore [.plusSign]
  | zeroOrMore : OccurrenceDerives .zeroOrMore [.asterisk]

inductive Derives : Declaration → List Token → Prop
  | empty : Derives .empty (parenthesized "empty-sequence" [])
  | typed {i : ItemTest} {o : Occurrence} {ts us : List Token} (hi : i.Derives ts)
      (ho : OccurrenceDerives o us) : Derives (.typed i o) (ts ++ us)

/-- A declaration is spelled by a text if tokens derived from it are. -/
def IsSpelledBy (d : Declaration) (cs : List Char) : Prop :=
  ∃ ts, d.Derives ts ∧ Token.Spaced ts cs

end Declaration

end XPathExtension
