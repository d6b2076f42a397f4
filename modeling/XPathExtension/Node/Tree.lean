import XPathExtension.Name

/-!
Document trees. A tree node of any kind may have attributes and children; documents and elements get
their text from theirs, all other kinds have a text of their own.
-/

namespace XPathExtension

/-- The kinds of nodes. -/
inductive NodeKind where
  | document | element | attributeNode | text | comment | processingInstruction | namespaceNode
deriving DecidableEq, Repr

def NodeKind.name : NodeKind → String
  | document => "Document"
  | element => "Element"
  | attributeNode => "Attribute"
  | text => "Text"
  | comment => "Comment"
  | processingInstruction => "ProcessingInstruction"
  | namespaceNode => "Namespace"

/-- A document tree, or a part of one. -/
inductive Tree where
  | mk (kind : NodeKind) (name : Option QName) (value : String)
      (attributes children : List Tree)

namespace Tree

def kind : Tree → NodeKind
  | mk k _ _ _ _ => k

def name : Tree → Option QName
  | mk _ n _ _ _ => n

def value : Tree → String
  | mk _ _ v _ _ => v

def attributes : Tree → List Tree
  | mk _ _ _ as _ => as

def children : Tree → List Tree
  | mk _ _ _ _ cs => cs

/-- A tree without attributes or children. -/
def leaf (kind : NodeKind) (name : Option QName) (value : String) : Tree := mk kind name value [] []

def document (children : List Tree) : Tree := mk .document none "" [] children

def element (name : QName) (attributes children : List Tree) : Tree :=
  mk .element (some name) "" attributes children

mutual

/-- The number of nodes on the child axes below and including the root. -/
def size : Tree → Nat
  | mk _ _ _ _ cs => sizeAll cs + 1

def sizeAll : List Tree → Nat
  | [] => 0
  | t :: ts => t.size + sizeAll ts

end

mutual

/-- What a child adds to the text of its parent: a text node its own, an element all below it. -/
def contribution : Tree → String
  | mk .text _ v _ _ => v
  | mk .element _ _ _ cs => contributions cs
  | _ => ""

def contributions : List Tree → String
  | [] => ""
  | t :: ts => t.contribution ++ contributions ts

end

/-- The string value: of a document or an element the text of its children, of another node its own
text. -/
def stringValue : Tree → String
  | mk .document _ _ _ cs => contributions cs
  | mk .element _ _ _ cs => contributions cs
  | mk _ _ v _ _ => v

theorem size_eq (t : Tree) : t.size = sizeAll t.children + 1 := by
  cases t; rfl

end Tree

end XPathExtension
