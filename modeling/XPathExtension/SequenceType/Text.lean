import XPathExtension.SequenceType.Basic

/-!
The text of a sequence type, in the form of a declaration. Names outside the built-in types show
their namespace.
-/

namespace XPathExtension

/-- The text of what an element or attribute test says about name and type. A test of the type
alone has a wildcard for the name. -/
def nameTestText (name type : Option ExpandedName) (nillable : Bool) : String :=
  let nameText := (name.map ExpandedName.text).getD "*"
  match name, type with
  | none, none => ""
  | _, none => nameText
  | _, some t => nameText ++ ", " ++ t.text ++ if nillable then "?" else ""

def ElementTest.text : ElementTest → String
  | test n t nillable => "element(" ++ nameTestText n t nillable ++ ")"
  | declared n => "schema-element(" ++ n.text ++ ")"

def AttributeTest.text : AttributeTest → String
  | test n t => "attribute(" ++ nameTestText n t false ++ ")"
  | declared n => "schema-attribute(" ++ n.text ++ ")"

/-- The text of an item test. The target of a processing instruction stands without quotes. -/
def ItemTest.text : ItemTest → String
  | anyItem => "item()"
  | atomic a => a.name.text
  | anyNode => "node()"
  | textNode => "text()"
  | comment => "comment()"
  | processingInstruction t => "processing-instruction(" ++ t.getD "" ++ ")"
  | element e => e.text
  | attributeNode a => a.text
  | document e => "document-node(" ++ (e.map ElementTest.text).getD "" ++ ")"

def ItemType.text (t : ItemType) : String := t.test.text

def SequenceType.text : SequenceType → String
  | empty => "empty-sequence()"
  | typed i o => i.text ++ o.indicator

end XPathExtension
