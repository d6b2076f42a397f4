import XPathExtension.Binary.Rounding
import XPathExtension.Text.Bytes
import XPathExtension.Text.Digits

/-!
Scanning JSON texts from the front: words, numbers, strings, and values that nobody asked for. Each
scanner leaves the rest of the text or the first fault; a text that ends too early is a fault of its
own.
-/

namespace XPathExtension.Json

/-- What is wrong with a text. -/
inductive Fault where
  /-- It is no JSON. -/
  | malformed
  /-- It ends inside a value. -/
  | truncated
  /-- It is JSON, but not of the expected form. -/
  | mistyped
deriving DecidableEq, Repr

abbrev Scanner (α : Type) := List Char → Except Fault (α × List Char)

def isSpace (c : Char) : Bool := c == ' ' || c == '\t' || c == '\n' || c == '\r'

def skipSpace (cs : List Char) : List Char := cs.dropWhile isSpace

def word : (expected : List Char) → List Char → Except Fault (List Char)
  | [], cs => .ok cs
  | _ :: _, [] => .error .truncated
  | e :: es, c :: cs => if c = e then word es cs else .error .malformed

def hexDigit? (c : Char) : Option Nat :=
  if c.isDigit then some (c.toNat - 48)
  else if 'a' ≤ c ∧ c ≤ 'f' then some (c.toNat - 87)
  else if 'A' ≤ c ∧ c ≤ 'F' then some (c.toNat - 55)
  else none

/-- The code unit of four hexadecimal digits. They are looked for in the next four bytes. -/
def codeUnit : Scanner Nat := fun cs =>
  if Text.byteCount (cs.take 4) < 4 then .error .truncated
  else
    match (cs.take 4).mapM hexDigit? with
    | some ds =>
      if ds.length = 4 then .ok (ds.foldl (fun n d => 16 * n + d) 0, cs.drop 4)
      else .error .malformed
    | none => .error .malformed

def isLeading (n : Nat) : Bool := 0xD800 ≤ n && n < 0xDC00

def isTrailing (n : Nat) : Bool := 0xDC00 ≤ n && n < 0xE000

/-- The character of one code unit, or of two where a pair is needed. -/
def escapedUnit : Scanner Char := fun cs => do
  let (n, r) ← codeUnit cs
  if isTrailing n then .error .malformed
  else if isLeading n then do
    let r ← word ['\\', 'u'] r
    let (m, r) ← codeUnit r
    if isTrailing m then .ok (Char.ofNat (0x10000 + (n - 0xD800) * 0x400 + (m - 0xDC00)), r)
    else .error .malformed
  else .ok (Char.ofNat n, r)

def escaped? : Char → Option Char
  | '"' => some '"'
  | '\\' => some '\\'
  | '/' => some '/'
  | 'b' => some '\x08'
  | 'f' => some '\x0c'
  | 'n' => some '\n'
  | 'r' => some '\r'
  | 't' => some '\t'
  | _ => none

/-- The rest of a string after its opening quote. `unit` scans the code units of an escape. Each
round takes at least one character, so `fuel` can be the length of the text. -/
def stringRest (unit : Scanner (List Char)) : (fuel : Nat) → Scanner (List Char)
  | 0, _ => .error .truncated
  | _ + 1, [] => .error .truncated
  | fuel + 1, c :: r =>
    if c = '"' then .ok ([], r)
    else if c = '\\' then
      match r with
      | [] => .error .truncated
      | 'u' :: r => do
        let (u, r) ← unit r
        let (s, r) ← stringRest unit fuel r
        return (u ++ s, r)
      | e :: r =>
        match escaped? e with
        | none => .error .malformed
        | some e => do
          let (s, r) ← stringRest unit fuel r
          return (e :: s, r)
    else if c.toNat < 0x20 then .error .malformed
    else do
      let (s, r) ← stringRest unit fuel r
      return (c :: s, r)

def string : Scanner String := fun cs => do
  let (s, r) ← stringRest (fun cs => return (← escapedUnit cs).map ([·]) id) cs.length cs
  return (String.ofList s, r)

/-- Pass a string whose text nobody asked for; its surrogates need no partner. -/
def skipString (cs : List Char) : Except Fault (List Char) := do
  return (← stringRest (fun cs => return (← codeUnit cs).map (fun _ => []) id) cs.length cs).2

def digits (cs : List Char) : List Char × List Char :=
  (cs.takeWhile Char.isDigit, cs.dropWhile Char.isDigit)

/-- At least one digit. -/
def someDigits : Scanner (List Char) := fun cs =>
  match digits cs with
  | ([], []) => .error .truncated
  | ([], _ :: _) => .error .malformed
  | found => .ok found

/-- The part of a number from its point on: the digits of the fraction. -/
def fraction : Scanner (List Char)
  | '.' :: r => someDigits r
  | cs => .ok ([], cs)

def exponent : Scanner Int
  | c :: r =>
    if c = 'e' ∨ c = 'E' then
      match r with
      | '-' :: r => do
        let (ds, r) ← someDigits r
        return (-(Text.digitsValue ds : Int), r)
      | '+' :: r => do
        let (ds, r) ← someDigits r
        return ((Text.digitsValue ds : Int), r)
      | r => do
        let (ds, r) ← someDigits r
        return ((Text.digitsValue ds : Int), r)
    else .ok (0, c :: r)
  | [] => .ok (0, [])

/-- The digits before the point: a zero, or digits that do not start with one. -/
def whole : Scanner (List Char) := fun cs => do
  let (ds, r) ← someDigits cs
  if ds.head? = some '0' ∧ ds ≠ ['0'] then .error .malformed else .ok (ds, r)

/-- A number without its sign. -/
def number : Scanner (Binary64) := fun cs => do
  let (w, r) ← whole cs
  let (f, r) ← fraction r
  let (e, r) ← exponent r
  return (.ofDecimal .binary64 false (Text.digitsValue (w ++ f)) (e - (f.length : Int)), r)

/-- Pass a number; that a text ends inside one is not told apart. -/
def skipNumber (cs : List Char) : Except Fault (List Char) :=
  match number cs with
  | .ok (_, r) => .ok r
  | .error _ => .error .malformed

/-- The name of a member of an object, given what scans a string after its quote. -/
def memberName {α : Type} (name : Scanner α) : Scanner α
  | '"' :: r => name r
  | [] => .error .truncated
  | _ :: _ => .error .malformed

/-- The colon between the name of a member and its value. -/
def colon (cs : List Char) : Except Fault (List Char) :=
  match skipSpace cs with
  | ':' :: r => .ok r
  | [] => .error .truncated
  | _ :: _ => .error .malformed

mutual

/-- Pass a value. Every second round takes a character, so `fuel` can be twice the length of the
text and two more. -/
def skipValueIn : (fuel : Nat) → List Char → Except Fault (List Char)
  | 0, _ => .error .truncated
  | fuel + 1, cs =>
    match skipSpace cs with
    | [] => .error .truncated
    | 'n' :: r => word "ull".toList r
    | 't' :: r => word "rue".toList r
    | 'f' :: r => word "alse".toList r
    | '"' :: r => skipString r
    | '-' :: r => skipNumber r
    | '[' :: r =>
      match skipSpace r with
      | ']' :: r => .ok r
      | [] => .error .truncated
      | r => skipElements fuel r
    | '\x7b' :: r =>
      match skipSpace r with
      | '\x7d' :: r => .ok r
      | [] => .error .truncated
      | r => skipMembers fuel r
    | c :: r => if c.isDigit then skipNumber (c :: r) else .error .malformed

def skipElements : (fuel : Nat) → List Char → Except Fault (List Char)
  | 0, _ => .error .truncated
  | fuel + 1, cs => do
    match skipSpace (← skipValueIn fuel cs) with
    | ',' :: r => skipElements fuel r
    | ']' :: r => .ok r
    | [] => .error .truncated
    | _ :: _ => .error .malformed

def skipMembers : (fuel : Nat) → List Char → Except Fault (List Char)
  | 0, _ => .error .truncated
  | fuel + 1, cs => do
    let (_, r) ← memberName (fun cs => return ((), ← skipString cs)) (skipSpace cs)
    match skipSpace (← skipValueIn fuel (← colon r)) with
    | ',' :: r => skipMembers fuel r
    | '\x7d' :: r => .ok r
    | [] => .error .truncated
    | _ :: _ => .error .malformed

end

/-- Pass a value that nobody asked for. -/
def skipValue (cs : List Char) : Except Fault (List Char) :=
  skipValueIn (2 * cs.length + 2) cs

/-- The fault of a value of another form than expected. Scalars are looked at first, and a number
too large for a binary one is none. -/
def otherValue (cs : List Char) : Fault :=
  let after {α : Type} : Except Fault α → Fault
    | .ok _ => .mistyped
    | .error e => e
  let finite (r : Except Fault (Binary64 × List Char)) : Fault :=
    match r with
    | .ok (d, _) => if d.isFinite then .mistyped else .malformed
    | .error e => e
  match cs with
  | 'n' :: r => after (word "ull".toList r)
  | 't' :: r => after (word "rue".toList r)
  | 'f' :: r => after (word "alse".toList r)
  | '"' :: r => after (string r)
  | '-' :: r => finite (number r)
  | '[' :: _ => .mistyped
  | '\x7b' :: _ => .mistyped
  | c :: r => if c.isDigit then finite (number (c :: r)) else .malformed
  | [] => .truncated

def boolean : Scanner Bool := fun cs =>
  match skipSpace cs with
  | 't' :: r => return (true, ← word "rue".toList r)
  | 'f' :: r => return (false, ← word "alse".toList r)
  | r => .error (otherValue r)

/-- A string, or nothing for `null`. -/
def optionalString : Scanner (Option String) := fun cs =>
  match skipSpace cs with
  | 'n' :: r => return (none, ← word "ull".toList r)
  | '"' :: r => do
    let (s, r) ← string r
    return (some s, r)
  | r => .error (otherValue r)

end XPathExtension.Json
