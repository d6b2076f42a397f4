import XPathExtension.Name.Lexical
import XPathExtension.Namespaces
import XPathExtension.Native.Value
import XPathExtension.Calendar.Reader
import XPathExtension.Text.Blank

/-!
Casting atomic values. A cast gives the native value that carries the result, and from that the
atomic value of the target type is built. Texts are read after trimming.
-/

namespace XPathExtension

/-- Why a value cannot be cast. -/
inductive CastError where
  /-- No value of the type can be cast to the target. -/
  | noConversion (source target : AtomicType)
  /-- This value has no counterpart in the target. -/
  | notInLexicalSpace (value : AtomicValue) (target : AtomicType)
  | outOfRange (value : Int) (target : IntegralType)
  /-- Infinities and NaN have no integer part. -/
  | notFinite (value : AtomicValue) (target : IntegralType)
  | invalidQName (text : String)
  | unboundPrefix (nsPrefix : String)
deriving DecidableEq

namespace CastError

def code : CastError → ErrorCode
  | noConversion .. => .xpty0004
  | notInLexicalSpace .. | outOfRange .. | invalidQName _ => .forg0001
  | notFinite .. => .foca0002
  | unboundPrefix _ => .fons0004

def message : CastError → String
  | noConversion s t => s.displayName ++ " cannot be converted to " ++ t.displayName
  | notInLexicalSpace v t =>
    "cannot cast '" ++ v.lexical ++ "' (" ++ v.type.displayName ++ ") to " ++ t.displayName
  | outOfRange n t => outOfRangeText n (AtomicType.integral t).displayName
  | notFinite v t =>
    "cannot convert " ++ v.lexical ++ " to " ++ (AtomicType.integral t).displayName
  | invalidQName s => "'" ++ s ++ "' is not a valid lexical QName"
  | unboundPrefix p => "no namespace bound to prefix '" ++ p ++ "'"

def toError (e : CastError) : Error := .ofCode e.code e.message

end CastError

/-- The number that a value of a numeric type is. -/
inductive Number where
  | integer (value : Int)
  | binary (value : Binary64)

namespace AtomicValue

def number? : AtomicValue → Option Number
  | integral _ n => some (.integer n.val)
  | decimal d | double d => some (.binary d)
  | float x => some (.binary (x.convert .binary64))
  | _ => none

def trimmed? : AtomicValue → Option (List Char)
  | text _ s => some (Text.trim s.toList)
  | _ => none

end AtomicValue

namespace Cast

/-- Digits only, at least one. -/
def readDigits? (cs : List Char) : Option Nat :=
  if cs ≠ [] ∧ cs.all Char.isDigit then some (Text.digitsValue cs) else none

def readSigned? : List Char → Option Int
  | '-' :: r => (readDigits? r).map fun n => -(n : Int)
  | '+' :: r => (readDigits? r).map fun n => (n : Int)
  | cs => (readDigits? cs).map fun n => (n : Int)

/-- The integers that texts are read as have 128 bits. -/
def IsWide (n : Int) : Prop := -(Nat.pow 2 127 : Int) ≤ n ∧ n < (Nat.pow 2 127 : Int)

instance (n : Int) : Decidable (IsWide n) := by unfold IsWide; infer_instance

/-- Read an integer. One sign plus is dropped before the number with its sign is read. -/
def readInteger? (cs : List Char) : Option Int :=
  let signed :=
    match cs with
    | '+' :: r => r
    | _ => cs
  (readSigned? signed).filter fun n => decide (IsWide n)

/-- Binary numbers of this magnitude and above are not taken for integers. -/
def integerBound : Int := 99999999999999997748809823456034029568

variable (v : AtomicValue)

/-- Values other than zero and NaN are true. -/
def toBoolean : Except CastError Bool :=
  match v with
  | .boolean b => .ok b
  | v =>
    match v.number?, v.trimmed? with
    | some (.integer n), _ => .ok (n != 0)
    | some (.binary d), _ => .ok !(d.isZero || d.isNaN)
    | none, some s =>
      if s = "true".toList ∨ s = ['1'] then .ok true
      else if s = "false".toList ∨ s = ['0'] then .ok false
      else .error (.notInLexicalSpace v .boolean)
    | none, none => .error (.noConversion v.type .boolean)

/-- The integer that a value stands for, a number without its fraction. -/
def toInteger (t : IntegralType) : Except CastError Int :=
  match v with
  | .boolean b => .ok (if b then 1 else 0)
  | v =>
    match v.number?, v.trimmed? with
    | some (.integer n), _ => .ok n
    | some (.binary d), _ =>
      match d.truncate? with
      | none => .error (.notFinite v t)
      | some n =>
        if n.natAbs < integerBound then .ok n
        else .error (.notInLexicalSpace v (.integral t))
    | none, some s =>
      match readInteger? s with
      | some n => .ok n
      | none => .error (.notInLexicalSpace v (.integral t))
    | none, none => .error (.noConversion v.type (.integral t))

/-- The value of an integral type that a value stands for. -/
def toIntegral (t : IntegralType) : Except CastError t.Value := do
  let n ← toInteger v t
  match t.ofInt? n with
  | some n => .ok n
  | none => .error (.outOfRange n t)

/-- The binary number that a value stands for; `target` is for messages. -/
def toBinary (target : AtomicType) : Except CastError Binary64 :=
  match v with
  | .boolean b => .ok (.ofInt .binary64 (if b then 1 else 0))
  | v =>
    match v.number?, v.trimmed? with
    | some (.integer n), _ => .ok (.ofInt .binary64 n)
    | some (.binary d), _ => .ok d
    | none, some s =>
      match Binary.ofText? .binary64 s with
      | some d => .ok d
      | none => .error (.notInLexicalSpace v target)
    | none, none => .error (.noConversion v.type target)

/-- Read a qualified name. Without a prefix it is in no namespace. -/
def readQName (ns : Namespaces) (text : String) : Except CastError QName :=
  match Name.readQualified? (Text.trim text.toList) with
  | none => .error (.invalidQName text)
  | some ⟨none, l⟩ => .ok ⟨none, l, none⟩
  | some ⟨some p, l⟩ =>
    match ns.resolve? p with
    | some u => .ok ⟨some p, l, some u⟩
    | none => .error (.unboundPrefix p)

/-- Names are read from strings and untyped texts only. -/
def toQName (ns : Namespaces) : Except CastError QName :=
  match v with
  | .qname q => .ok q
  | .text .string s | .text .untypedAtomic s => readQName ns s
  | v => .error (.noConversion v.type .qname)

/-- The moment that a value stands for; a date is its first moment, by default in universal time. -/
def toDateTime : Except CastError DateTime :=
  match v with
  | .dateTime d => .ok d
  | .date d zone =>
    match DateTime.ofLocal? d .midnight (zone.getD .utc) with
    | some m => .ok m
    | none => .error (.notInLexicalSpace v .dateTime)
  | v =>
    match v.trimmed? with
    | none => .error (.noConversion v.type .dateTime)
    | some s =>
      match Calendar.readDateTime? s with
      | some m => .ok m
      | none => .error (.notInLexicalSpace v .dateTime)

/-- The date that a value stands for, without its zone. -/
def toDate : Except CastError Date :=
  match v with
  | .date d _ => .ok d
  | .dateTime d => .ok d.date
  | v =>
    match v.trimmed? with
    | none => .error (.noConversion v.type .date)
    | some s =>
      match Calendar.readDate? s with
      | some d => .ok d
      | none => .error (.notInLexicalSpace v .date)

/-- Cast a value to the native value that carries values of the target type. -/
def toNative (t : AtomicType) (ns : Namespaces) : Except CastError NativeValue :=
  match t with
  | .anyAtomic => .ok (.item (.atomic v))
  | .text _ => .ok (.string v.lexical)
  | .boolean => .bool <$> toBoolean v
  | .double | .decimal => .double <$> toBinary v t
  | .float => (fun d => .float (d.convert .binary32)) <$> toBinary v t
  | .integral k => .ofIntegral k <$> toIntegral v k
  | .qname => .qname <$> toQName v ns
  | .dateTime => .dateTime <$> toDateTime v
  | .date => .date <$> toDate v

end Cast

end XPathExtension
