import XPathExtension.Native.Type
import XPathExtension.SequenceType.Occurrence

/-!
Sequence types: what the items of a sequence are and how many there may be.

An item type also keeps the native type of one item, which says how items are converted.
-/

namespace XPathExtension

/-- A test for elements: by name and type, or by the name of a declaration in a schema. -/
inductive ElementTest where
  | test (name : Option ExpandedName) (type : Option ExpandedName) (nillable : Bool)
  | declared (name : ExpandedName)
deriving DecidableEq, Repr

/-- A test for attributes: by name and type, or by the name of a declaration in a schema. -/
inductive AttributeTest where
  | test (name : Option ExpandedName) (type : Option ExpandedName)
  | declared (name : ExpandedName)
deriving DecidableEq, Repr

/-- A test for items. -/
inductive ItemTest where
  | anyItem
  | atomic (type : AtomicType)
  | anyNode
  | textNode
  | comment
  | processingInstruction (target : Option String)
  | element (test : ElementTest)
  | attributeNode (test : AttributeTest)
  | document (element : Option ElementTest)
deriving DecidableEq, Repr

namespace ItemTest

/-- Only nodes can pass. -/
def isNodeTest : ItemTest → Bool
  | anyItem | atomic _ => false
  | _ => true

/-- The type that items are converted to, if there is one. -/
def atomicType? : ItemTest → Option AtomicType
  | atomic a => some a
  | _ => none

/-- Only elements can pass, whatever their declaration. -/
def isElementTest : ItemTest → Bool
  | element (.test ..) => true
  | _ => false

end ItemTest

/-- The type of an item. -/
structure ItemType where
  test : ItemTest
  native : ElementType
deriving DecidableEq, Repr

/-- The type of a sequence. -/
inductive SequenceType where
  | empty
  | typed (item : ItemType) (occurrence : Occurrence)
deriving DecidableEq, Repr

namespace SequenceType

def item? : SequenceType → Option ItemType
  | empty => none
  | typed i _ => some i

def occurrence? : SequenceType → Option Occurrence
  | empty => none
  | typed _ o => some o

/-- Whether sequences of `n` items can have the type. -/
def acceptsLength : SequenceType → Nat → Bool
  | empty, n => n == 0
  | typed _ o, n => o.accepts n

/-- At most one item of any kind; announced for functions that only act. -/
def optionalItem (native : ElementType) : SequenceType := typed ⟨.anyItem, native⟩ .zeroOrOne

end SequenceType

end XPathExtension
