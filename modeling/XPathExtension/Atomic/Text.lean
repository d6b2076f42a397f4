import XPathExtension.Atomic.Value
import XPathExtension.Binary.Rounding
import XPathExtension.Binary.Text
import XPathExtension.Calendar.Text
import XPathExtension.Text.Escaped

/-!
The lexical form of an atomic value, which casting to a text type gives, and its diagnostic form,
which names the type.
-/

namespace XPathExtension

def boolText (b : Bool) : String := if b then "true" else "false"

/-- The name with its prefix; an empty prefix is left out. -/
def QName.lexical (q : QName) : String :=
  match q.nsPrefix with
  | none => q.localName
  | some p => if p = "" then q.localName else p ++ ":" ++ q.localName

namespace AtomicValue

/-- The lexical form. A float is written as the double of the same value. -/
def lexical : AtomicValue → String
  | text _ s => s
  | boolean b => boolText b
  | decimal d => d.text
  | double d => d.text
  | float x => (x.convert .binary64).text
  | integral _ n => toString n.val
  | qname q => q.lexical
  | dateTime d => String.ofList d.text
  | date d zone => String.ofList (d.text ++ (zone.map Offset.text).getD [])

/-- A text that may be absent, in diagnostic form. -/
def optionalText (s : Option String) : String :=
  match s with
  | none => "None"
  | some s => "Some(" ++ Text.quoted s ++ ")"

def diagnosticName : AtomicType → String
  | .anyAtomic => "AnyAtomic"
  | .text .string => "String"
  | .text .untypedAtomic => "UntypedAtomic"
  | .text .anyURI => "AnyUri"
  | .boolean => "Boolean"
  | .decimal => "Decimal"
  | .double => "Double"
  | .float => "Float"
  | .integral .integer => "Integer"
  | .integral .long => "Long"
  | .integral .int => "Int"
  | .integral .short => "Short"
  | .integral .byte => "Byte"
  | .integral .unsignedLong => "UnsignedLong"
  | .integral .unsignedInt => "UnsignedInt"
  | .integral .unsignedShort => "UnsignedShort"
  | .integral .unsignedByte => "UnsignedByte"
  | .qname => "QName"
  | .dateTime => "DateTime"
  | .date => "Date"

/-- The parts of a value in diagnostic form, between the brackets that belong to them. -/
def diagnosticParts : AtomicValue → String
  | text _ s => "(" ++ Text.quoted s ++ ")"
  | boolean b => "(" ++ boolText b ++ ")"
  | decimal d => "(" ++ d.diagnosticText ++ ")"
  | double d => "(" ++ d.diagnosticText ++ ")"
  | float x => "(" ++ x.diagnosticText ++ ")"
  | integral _ n => "(" ++ toString n.val ++ ")"
  | qname q =>
    " \x7b ns_uri: " ++ optionalText q.ns ++ ", prefix: " ++ optionalText q.nsPrefix ++
      ", local: " ++ Text.quoted q.localName ++ " \x7d"
  | dateTime d => "(" ++ String.ofList d.diagnosticText ++ ")"
  | date d zone =>
    let zoneText :=
      match zone with
      | none => "None"
      | some o => "Some(" ++ String.ofList o.text ++ ")"
    " \x7b date: " ++ String.ofList d.text ++ ", tz: " ++ zoneText ++ " \x7d"

/-- The diagnostic form: the type and the parts. -/
def diagnostic (v : AtomicValue) : String := diagnosticName v.type ++ v.diagnosticParts

end AtomicValue

end XPathExtension
