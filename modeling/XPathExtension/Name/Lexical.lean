import XPathExtension.Text.Alphabetic
import XPathExtension.Name

/-!
Lexical names of values and functions: names without a colon, and the split of a qualified name at
its first colon.
-/

namespace XPathExtension

/-- A name as written, its prefix not yet looked up. -/
structure LexicalName where
  nsPrefix : Option String
  localName : String
deriving DecidableEq, Repr, Inhabited

namespace Name

/-- Characters that may start a name: alphabetic ones and the underscore. -/
def isStart (c : Char) : Bool := Text.isAlphabetic c || c == '_'

/-- Characters that may follow: also numerals, hyphens and full stops. -/
def isPart (c : Char) : Bool :=
  Text.isAlphabetic c || Text.isNumeral c || c == '_' || c == '-' || c == '.'

/-- Whether the characters form a name without a colon. -/
def isNCName : List Char → Bool
  | [] => false
  | c :: r => isStart c && r.all isPart

/-- Split at the first colon: what stands before it, if there is one, and the rest. -/
def splitPrefix (cs : List Char) : Option (List Char) × List Char :=
  match cs.dropWhile (· ≠ ':') with
  | [] => (none, cs)
  | _ :: r => (some (cs.takeWhile (· ≠ ':')), r)

/-- Read a qualified name: a name without a colon, optionally after another one and a colon. -/
def readQualified? (cs : List Char) : Option LexicalName :=
  match splitPrefix cs with
  | (none, l) => if isNCName l then some ⟨none, String.ofList l⟩ else none
  | (some p, l) =>
    if isNCName p && isNCName l then some ⟨some (String.ofList p), String.ofList l⟩ else none

end Name

end XPathExtension
