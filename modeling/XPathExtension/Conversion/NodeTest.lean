import XPathExtension.Node
import XPathExtension.SequenceType.Basic

/-!
Which nodes pass a test. Declared types of elements and attributes are not looked at, and a name
in a schema stands for the nodes of that name.
-/

namespace XPathExtension

/-- Whether the node has the name, if one is asked for. -/
def Node.hasName (n : Node) : Option ExpandedName → Bool
  | none => true
  | some e => n.name.any fun q => q.expanded == e

def ElementTest.accepts (n : Node) : ElementTest → Bool
  | test name _ _ => n.kind == .element && n.hasName name
  | declared name => n.kind == .element && n.hasName (some name)

def AttributeTest.accepts (n : Node) : AttributeTest → Bool
  | test name _ => n.kind == .attributeNode && n.hasName name
  | declared name => n.kind == .attributeNode && n.hasName (some name)

/-- Whether a node passes. A document is tested by the first element among its children. -/
def ItemTest.accepts (n : Node) : ItemTest → Bool
  | anyItem | anyNode => true
  | atomic _ => false
  | textNode => n.kind == .text
  | comment => n.kind == .comment
  | processingInstruction none => n.kind == .processingInstruction
  | processingInstruction (some t) =>
    n.kind == .processingInstruction && n.name.any fun q => q.localName == t
  | element e => e.accepts n
  | attributeNode a => a.accepts n
  | document none => n.kind == .document
  | document (some e) =>
    n.kind == .document && (n.children.find? fun c => c.kind == .element).any e.accepts

end XPathExtension
