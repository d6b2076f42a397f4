import XPathExtension.Text.Unprintable
import XPathExtension.Uri.Address

/-!
Hosts of absolute references. In the schemes that know about hosts a host is a domain name or an
address; in other schemes it is any text of the characters allowed.
-/

namespace XPathExtension.Uri

/-- Why a text is no absolute reference. -/
inductive Fault where
  /-- No scheme stands at the front. -/
  | relative
  | emptyHost
  | invalidDomain
  | invalidHostCharacter
  | invalidAddress4
  | invalidAddress6
  | invalidPort
deriving DecidableEq, Repr

def Fault.text : Fault → String
  | relative => "relative URL without a base"
  | emptyHost => "empty host"
  | invalidDomain => "invalid international domain name"
  | invalidHostCharacter => "invalid domain character"
  | invalidAddress4 => "invalid IPv4 address"
  | invalidAddress6 => "invalid IPv6 address"
  | invalidPort => "invalid port number"

/-- Characters that no host may have. -/
def isForbidden (c : Char) : Bool :=
  c == '\x00' || c == '\t' || c == '\n' || c == '\r' || c == ' ' || c == '#' || c == '/' ||
    c == ':' || c == '<' || c == '>' || c == '?' || c == '@' || c == '[' || c == '\\' ||
    c == ']' || c == '^' || c == '|'

/-- Characters that no domain name may have: also the other controls and the percent sign. -/
def isForbiddenInDomain (c : Char) : Bool :=
  isForbidden c || c.toNat < 0x20 || c == '\x7f' || c == '%'

/-- The bytes of a text in which a percent sign and two hexadecimal digits stand for a byte. -/
def percentDecoded : List Char → List UInt8
  | '%' :: a :: b :: r =>
    if isHexDigit a && isHexDigit b then
      UInt8.ofNat (16 * hexDigitValue a + hexDigitValue b) :: percentDecoded r
    else "%".toUTF8.toList ++ percentDecoded (a :: b :: r)
  | c :: r => (String.singleton c).toUTF8.toList ++ percentDecoded r
  | [] => []

/-- The form of a character in domain names: wide forms become the plain ones. -/
def plainForm (c : Char) : Char :=
  if 0xFF01 ≤ c.toNat && c.toNat ≤ 0xFF5E then Char.ofNat (c.toNat - 0xFEE0)
  else if c.toNat == 0x3002 || c.toNat == 0xFF61 then '.'
  else c

/-- A domain name with its escapes replaced, in plain form, if all its characters are allowed. -/
def domain? (cs : List Char) : Option (List Char) := do
  let s ← String.fromUTF8? (percentDecoded cs).toByteArray
  let ds := s.toList.map plainForm
  if ds.any fun c => isForbiddenInDomain c || (0x7F < c.toNat && Text.unprintable.contains c) then
    none
  else some ds

def bracketFault? (cs : List Char) : Option Fault :=
  if cs.getLast? = some ']' && isAddress6 (cs.drop 1).dropLast then none
  else some .invalidAddress6

/-- What is wrong with a host of a scheme that knows about hosts. -/
def hostFault? (cs : List Char) : Option Fault :=
  if cs.head? = some '[' then bracketFault? cs
  else
    match domain? cs with
    | none => some .invalidDomain
    | some ds =>
      if ds.isEmpty then some .emptyHost
      else if endsInNumber ds && !isAddress4 ds then some .invalidAddress4
      else none

def opaqueHostFault? (cs : List Char) : Option Fault :=
  if cs.head? = some '[' then bracketFault? cs
  else if cs.any isForbidden then some .invalidHostCharacter
  else none

end XPathExtension.Uri
