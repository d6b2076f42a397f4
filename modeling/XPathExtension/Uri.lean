import XPathExtension.Uri.Host

/-!
Absolute references, the names of namespaces that modules may declare. What counts is whether a text
is one and, if not, the first fault met in it.
-/

namespace XPathExtension.Uri

/-- The schemes by what follows them. -/
inductive SchemeKind where
  /-- A host follows, however many slashes there are. -/
  | hosted
  /-- A host may follow. -/
  | file
  /-- A host follows if two slashes do. -/
  | other
deriving DecidableEq, Repr

def SchemeKind.ofName (scheme : List Char) : SchemeKind :=
  let s := String.ofList (scheme.map Char.toLower)
  if s = "file" then .file
  else if s ∈ ["http", "https", "ws", "wss", "ftp"] then .hosted
  else .other

def isSchemePart (c : Char) : Bool := c.isAlphanum || c == '+' || c == '-' || c == '.'

/-- The scheme before the first colon and what follows the colon. -/
def splitScheme? (cs : List Char) : Option (List Char × List Char) :=
  let scheme := cs.takeWhile isSchemePart
  match cs.dropWhile isSchemePart with
  | ':' :: r => if scheme.head?.any Char.isAlpha then some (scheme, r) else none
  | _ => none

/-- Whether a character ends the part of a reference that names the host. -/
def endsAuthority (backslash : Bool) (c : Char) : Bool :=
  c == '/' || c == '?' || c == '#' || (backslash && c == '\\')

/-- Credentials before the last at sign, and what follows it. -/
def splitCredentials (authority : List Char) : Option (List Char × List Char) :=
  if '@' ∈ authority then
    some (((authority.reverse.dropWhile (· ≠ '@')).drop 1).reverse,
      (authority.reverse.takeWhile (· ≠ '@')).reverse)
  else none

/-- The host at the front, up to a colon outside brackets, and the rest. -/
def splitHost : (inBrackets : Bool) → List Char → List Char × List Char
  | _, [] => ([], [])
  | inBrackets, c :: r =>
    if c == ':' && !inBrackets then ([], c :: r)
    else
      let (h, rest) := splitHost ((inBrackets || c == '[') && c != ']') r
      (c :: h, rest)

/-- A port is a number of 16 bits. -/
def portFault? (cs : List Char) : Option Fault :=
  if cs.all Char.isDigit && Text.digitsValue cs ≤ 65535 then none else some .invalidPort

/-- What is wrong with a host and a port. Credentials need a host. -/
def endpointFault? (hosted credentials : Bool) (cs : List Char) : Option Fault :=
  let (host, rest) := splitHost false cs
  if host.isEmpty && (hosted || !rest.isEmpty) then some .emptyHost
  else
    (if hosted then hostFault? host else opaqueHostFault? host).or
      ((portFault? ((rest.drop 1).takeWhile (· ≠ '\\'))).or
        (if host.isEmpty && credentials then some .emptyHost else none))

/-- What is wrong with credentials, host and port. A lone at sign must have a host after it, and
credentials of a single colon are as good as none. -/
def authorityFault? (hosted : Bool) (cs : List Char) : Option Fault :=
  let authority := cs.takeWhile fun c => !endsAuthority hosted c
  let ended := !(cs.drop authority.length).isEmpty
  match splitCredentials authority with
  | none => endpointFault? hosted false authority
  | some (credentials, endpoint) =>
    if credentials.isEmpty && endpoint.isEmpty && ended then some .emptyHost
    else endpointFault? hosted (!credentials.isEmpty && credentials != [':']) endpoint

/-- A drive letter with its mark, which is no host. -/
def isDrive : List Char → Bool
  | [c, d] => c.isAlpha && (d == ':' || d == '|')
  | _ => false

def fileFault? (cs : List Char) : Option Fault :=
  match cs with
  | c :: d :: r =>
    if (c == '/' || c == '\\') && (d == '/' || d == '\\') then
      let host := r.takeWhile fun c => !endsAuthority true c
      if host.isEmpty || isDrive host then none else hostFault? host
    else none
  | _ => none

/-- Drop controls and blanks at both ends, and tabs and line ends everywhere. -/
def cleaned (cs : List Char) : List Char :=
  let blank (c : Char) : Bool := c.toNat ≤ 0x20
  let trimmed := ((cs.dropWhile blank).reverse.dropWhile blank).reverse
  trimmed.filter fun c => c != '\t' && c != '\n' && c != '\r'

/-- The first fault that keeps a text from being an absolute reference. -/
def fault? (text : String) : Option Fault :=
  match splitScheme? (cleaned text.toList) with
  | none => some .relative
  | some (scheme, r) =>
    match SchemeKind.ofName scheme with
    | .file => fileFault? r
    | .hosted => authorityFault? true (r.dropWhile fun c => c == '/' || c == '\\')
    | .other =>
      match r with
      | '/' :: '/' :: r => authorityFault? false r
      | _ => none

end XPathExtension.Uri
