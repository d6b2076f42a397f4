import XPathExtension.Atomic.Value
import XPathExtension.Node

/-!
Items, the nodes and atomic values that sequences are made of.
-/

namespace XPathExtension

/-- A node or an atomic value. -/
inductive Item where
  | node (value : Node)
  | atomic (value : AtomicValue)

/-- What functions take and give: any number of items in order. -/
abbrev Sequence := List Item

/-- The atomic value of an item: of a node its string value, untyped. -/
def Item.atomize : Item → AtomicValue
  | node n => .text .untypedAtomic n.stringValue
  | atomic v => v

end XPathExtension
