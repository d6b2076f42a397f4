import XPathExtension.Declaration.Token
import XPathExtension.Text.Blank

/-!
Reading declared sequence types. An item type with parentheses is known by the word before them;
a name without parentheses is the name of an atomic type, whatever it is.
-/

namespace XPathExtension

namespace Declaration

/-- What a reader leaves: a value and the rest of the tokens. -/
abbrev Reader (α : Type) := List Token → Option (α × List Token)

def readNameTest : Reader NameTest
  | .asterisk :: r => some (.wildcard, r)
  | .name n :: r => some (.named n, r)
  | _ => none

/-- What stands in the parentheses of an element test, after the first one. -/
def readElementTest : Reader ElementTest
  | .rightParen :: r => some (.anything, r)
  | ts => do
    let (n, r) ← readNameTest ts
    match r with
    | .rightParen :: r => some (.test n none, r)
    | .comma :: .name t :: .rightParen :: r => some (.test n (some ⟨t, false⟩), r)
    | .comma :: .name t :: .questionMark :: .rightParen :: r =>
      some (.test n (some ⟨t, true⟩), r)
    | _ => none

/-- What stands in the parentheses of an attribute test, after the first one. -/
def readAttributeTest : Reader AttributeTest
  | .rightParen :: r => some (.anything, r)
  | ts => do
    let (n, r) ← readNameTest ts
    match r with
    | .rightParen :: r => some (.test n none, r)
    | .comma :: .name t :: .rightParen :: r => some (.test n (some t), r)
    | _ => none

/-- A name and the last parenthesis. -/
def readDeclared : Reader LexicalName
  | .name n :: .rightParen :: r => some (n, r)
  | _ => none

/-- The target of a processing instruction and the last parenthesis. A quoted target is trimmed. -/
def readTarget : Reader (Option String)
  | .rightParen :: r => some (none, r)
  | .name ⟨none, l⟩ :: .rightParen :: r => some (some l, r)
  | .literal s :: .rightParen :: r => some (some (String.ofList (Text.trim s)), r)
  | _ => none

/-- The test for the element of a document and the last parenthesis. -/
def readDocumentTest : Reader (Option ElementTest)
  | .rightParen :: r => some (none, r)
  | .name ⟨none, word⟩ :: .leftParen :: r => do
    let (e, r) ←
      if word = "element" then readElementTest r
      else if word = "schema-element" then (readDeclared r).map fun (n, r) => (.declared n, r)
      else none
    match r with
    | .rightParen :: r => some (some e, r)
    | _ => none
  | _ => none

/-- Nothing but the last parenthesis. -/
def readNothing {α : Type} (a : α) : Reader α
  | .rightParen :: r => some (a, r)
  | _ => none

/-- The rest of an item test that starts with a word and a parenthesis. -/
def readTest (word : String) (r : List Token) : Option (ItemTest × List Token) :=
  match word with
  | "item" => readNothing .anyItem r
  | "node" => readNothing .anyNode r
  | "text" => readNothing .textNode r
  | "comment" => readNothing .comment r
  | "processing-instruction" =>
    (readTarget r).map fun (t, r) => (.processingInstruction t, r)
  | "document-node" => (readDocumentTest r).map fun (e, r) => (.document e, r)
  | "element" => (readElementTest r).map fun (e, r) => (.element e, r)
  | "attribute" => (readAttributeTest r).map fun (a, r) => (.attributeNode a, r)
  | "schema-element" => (readDeclared r).map fun (n, r) => (.element (.declared n), r)
  | "schema-attribute" => (readDeclared r).map fun (n, r) => (.attributeNode (.declared n), r)
  | _ => none

def readItem : Reader ItemTest
  | .name ⟨none, word⟩ :: .leftParen :: r => readTest word r
  | .name n :: r => some (.atomic n, r)
  | _ => none

/-- The mark after an item test, at the end. -/
def readOccurrence : List Token → Option Occurrence
  | [] => some .one
  | [.questionMark] => some .zeroOrOne
  | [.plusSign] => some .oneOrMore
  | [.asterisk] => some .zeroOrMore
  | _ => none

def ofTokens? (ts : List Token) : Option Declaration :=
  if ts = [.name ⟨none, "empty-sequence"⟩, .leftParen, .rightParen] then some .empty
  else do
    let (item, r) ← readItem ts
    return .typed item (← readOccurrence r)

def read? (text : String) : Option Declaration := do
  ofTokens? (← Token.scan? text.toList)

example : read? "element(item, xs:string?)*" =
    some (.typed (.element (.test (.named ⟨none, "item"⟩) (some ⟨⟨some "xs", "string"⟩, true⟩)))
      .zeroOrMore) := by
  decide +kernel

example : read? "empty-sequence()?" = none := by decide +kernel

end Declaration

end XPathExtension
