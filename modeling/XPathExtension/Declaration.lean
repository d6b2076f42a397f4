import XPathExtension.Name.Lexical
import XPathExtension.SequenceType.Occurrence

/-!
Declarations of sequence types as they are written: names still have prefixes, and a name left out
differs from a wildcard.
-/

namespace XPathExtension

namespace Declaration

/-- What an element or attribute test says about the name. -/
inductive NameTest where
  | wildcard
  | named (name : LexicalName)
deriving DecidableEq, Repr

/-- A declared type, which nilled elements may belong to. -/
structure TypeTest where
  type : LexicalName
  nillable : Bool
deriving DecidableEq, Repr

/-- A test for elements. -/
inductive ElementTest where
  | anything
  | test (name : NameTest) (type : Option TypeTest)
  /-- The elements that a schema declares under a name. -/
  | declared (name : LexicalName)
deriving DecidableEq, Repr

/-- A test for attributes. -/
inductive AttributeTest where
  | anything
  | test (name : NameTest) (type : Option LexicalName)
  /-- The attributes that a schema declares under a name. -/
  | declared (name : LexicalName)
deriving DecidableEq, Repr

/-- A test for items. -/
inductive ItemTest where
  | anyItem
  | anyNode
  | textNode
  | comment
  | processingInstruction (target : Option String)
  | document (element : Option ElementTest)
  | element (test : ElementTest)
  | attributeNode (test : AttributeTest)
  | atomic (type : LexicalName)
deriving DecidableEq, Repr

end Declaration

/-- A declared sequence type. -/
inductive Declaration where
  | empty
  | typed (item : Declaration.ItemTest) (occurrence : Occurrence)
deriving DecidableEq, Repr

end XPathExtension
