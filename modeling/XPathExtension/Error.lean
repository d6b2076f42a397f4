import XPathExtension.Name

/-!
Errors raised at call time: a code, which is a name, a message that grows by the places the error
passes through, and optionally the text of an underlying error.
-/

namespace XPathExtension

/-- The codes with a meaning of their own. -/
inductive ErrorCode where
  /-- An error raised by a native function. -/
  | foer0000
  /-- A text that is no lexical form, or a failed conversion. -/
  | forg0001
  /-- A violated lower or upper bound of one on the number of items. -/
  | forg0004
  /-- Not exactly one item. -/
  | forg0005
  /-- A number without an integer value. -/
  | foca0002
  /-- A prefix without a namespace. -/
  | fons0004
  /-- A value of the wrong type. -/
  | xpty0004
  /-- An unknown function or a wrong number of arguments. -/
  | xpst0017
  /-- Any other code. -/
  | unknown
deriving DecidableEq, Repr

namespace ErrorCode

def name : ErrorCode → String
  | foer0000 => "FOER0000"
  | forg0001 => "FORG0001"
  | forg0004 => "FORG0004"
  | forg0005 => "FORG0005"
  | foca0002 => "FOCA0002"
  | fons0004 => "FONS0004"
  | xpty0004 => "XPTY0004"
  | xpst0017 => "XPST0017"
  | unknown => "UNKNOWN"

/-- The name of the code, in the namespace of the error codes. -/
def expanded (c : ErrorCode) : ExpandedName := .inNamespace Namespace.errors c.name

def known : List ErrorCode :=
  [foer0000, forg0001, forg0004, forg0005, foca0002, fons0004, xpty0004, xpst0017]

def ofName (s : String) : ErrorCode := (known.find? fun c => c.name = s).getD unknown

@[simp] theorem ofName_name (c : ErrorCode) : ofName c.name = c := by
  cases c <;> decide

/-- The code that a name stands for; names outside the namespace of the codes stand for none. -/
def ofExpanded (n : ExpandedName) : ErrorCode :=
  if n.ns = some Namespace.errors then ofName n.localName else unknown

@[simp] theorem ofExpanded_expanded (c : ErrorCode) : ofExpanded c.expanded = c := by
  simp [ofExpanded, expanded, ExpandedName.inNamespace]

end ErrorCode

/-- An error raised at call time. -/
structure Error where
  code : ExpandedName
  message : String
  source : Option String := none
deriving DecidableEq, Repr

namespace Error

def ofCode (c : ErrorCode) (message : String) : Error := ⟨c.expanded, message, none⟩

/-- The code, if it is one with a meaning of its own. -/
def kind (e : Error) : ErrorCode := .ofExpanded e.code

/-- The code in short: with the prefix `err` if it is in the namespace of the codes. -/
def codeText (e : Error) : String :=
  match e.code.ns with
  | none => e.code.localName
  | some ns =>
    if ns = Namespace.errors then "err:" ++ e.code.localName
    else "Q\x7b" ++ ns ++ "\x7d" ++ e.code.localName

def text (e : Error) : String := "error: " ++ e.message ++ " (" ++ e.codeText ++ ")"

def inContext (e : Error) (place : String) : Error :=
  { e with message := place ++ ": " ++ e.message }

def withSource (e : Error) (source : Option Error) : Error := { e with source := source.map text }

@[simp] theorem inContext_code (e : Error) (p : String) : (e.inContext p).code = e.code := rfl

@[simp] theorem inContext_source (e : Error) (p : String) : (e.inContext p).source = e.source := rfl

@[simp] theorem ofCode_kind (c : ErrorCode) (m : String) : (ofCode c m).kind = c := by
  simp [ofCode, kind]

end Error

end XPathExtension
