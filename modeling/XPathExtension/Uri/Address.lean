import XPathExtension.Text.Digits

/-!
Numeric addresses of hosts: four numbers with points between them, or groups of hexadecimal digits
with colons between them.
-/

namespace XPathExtension.Uri

def splitAtPoints (cs : List Char) : List (List Char) := cs.splitOn '.'

def isHexDigit (c : Char) : Bool :=
  c.isDigit || ('a' ≤ c && c ≤ 'f') || ('A' ≤ c && c ≤ 'F')

def hexDigitValue (c : Char) : Nat :=
  if c.isDigit then c.toNat - 48 else if 'a' ≤ c then c.toNat - 87 else c.toNat - 55

/-- The value of digits in a base, if they are digits of that base. -/
def digitsIn? (base : Nat) (cs : List Char) : Option Nat :=
  if cs.all fun c => isHexDigit c && hexDigitValue c < base then
    some (cs.foldl (fun n c => base * n + hexDigitValue c) 0)
  else none

/-- A number of an address: hexadecimal after `0x`, octal after another zero, or decimal. -/
def addressNumber? : List Char → Option Nat
  | [] => none
  | '0' :: 'x' :: r => digitsIn? 16 r
  | '0' :: 'X' :: r => digitsIn? 16 r
  | '0' :: c :: r => digitsIn? 8 (c :: r)
  | cs => digitsIn? 10 cs

/-- The parts of a host, without an empty one after a last point. -/
def hostParts (cs : List Char) : List (List Char) :=
  let ps := splitAtPoints cs
  if ps.getLast? = some [] then ps.dropLast else ps

/-- A host is taken for an address if its last part is a number. -/
def endsInNumber (cs : List Char) : Bool :=
  match (hostParts cs).getLast? with
  | none => false
  | some p => (!p.isEmpty && p.all Char.isDigit) || (addressNumber? p).isSome

/-- At most four numbers; the last one fills what the others leave, and they are bytes. -/
def isAddress4 (cs : List Char) : Bool :=
  match (hostParts cs).mapM addressNumber? with
  | none => false
  | some ns =>
    ns.length ≤ 4 && ns.dropLast.all (· ≤ 255) &&
      (ns.getLast?.any fun n => n < Nat.pow 256 (4 - (ns.length - 1)))

/-- A byte in decimal digits without leading zeros. -/
def isDecimalByte (cs : List Char) : Bool :=
  !cs.isEmpty && cs.all Char.isDigit && (cs.head? != some '0' || cs.length == 1) &&
    Text.digitsValue cs ≤ 255

def isDottedQuad (cs : List Char) : Bool :=
  let ps := splitAtPoints cs
  ps.length == 4 && ps.all isDecimalByte

/-- The rest of an address of eight groups, of which `count` are done. An empty group stands for any
number of zero groups, once; the last two groups may be written as four bytes. Each round takes a
character, so `fuel` can be the length of the text and one more. -/
def groupsFrom : (fuel : Nat) → (count : Nat) → (compressed : Bool) → List Char → Bool
  | 0, _, _, _ => false
  | _ + 1, count, compressed, [] => compressed || count == 8
  | fuel + 1, count, compressed, c :: r =>
    if count == 8 then false
    else if c == ':' then !compressed && groupsFrom fuel (count + 1) true r
    else
      let ds := ((c :: r).take 4).takeWhile isHexDigit
      match (c :: r).drop ds.length with
      | [] => compressed || count + 1 == 8
      | '.' :: _ =>
        !ds.isEmpty && count ≤ 6 && isDottedQuad (c :: r) && (compressed || count + 2 == 8)
      | ':' :: r => !r.isEmpty && groupsFrom fuel (count + 1) compressed r
      | _ :: _ => false

/-- Eight groups of at most four hexadecimal digits with colons between them. -/
def isAddress6 (cs : List Char) : Bool :=
  match cs with
  | [] => false
  | [_] => false
  | ':' :: c :: r => c == ':' && groupsFrom (r.length + 1) 1 true r
  | cs => groupsFrom (cs.length + 1) 0 false cs

end XPathExtension.Uri
