import XPathExtension.Declaration.Reader
import XPathExtension.Namespaces
import XPathExtension.SequenceType.Basic

/-!
The sequence type of a parameter or a result. Without a declaration the native type says it all; a
declaration counts if the native type can carry what it allows.
-/

namespace XPathExtension

/-- What cannot stand inside another wrapper. -/
inductive Nesting where
  | arrays | units | options | optionalArrays
deriving DecidableEq, Repr

def Nesting.text : Nesting → String
  | arrays => "arrays"
  | units => "unit values"
  | options => "options"
  | optionalArrays => "optional arrays"

/-- Why a declaration does not fit a native type. -/
inductive Misfit where
  /-- Nothing stands for the empty sequence. -/
  | noEmptyValue
  /-- A function that only acts gives no item. -/
  | unitNotEmpty
  | nodeTestOnAtomic
  | atomicTypeOnNode
  | manyWithoutArray
  | arrayWithoutMany
  | optionalWithoutDefault
  /-- The result of a function that does not only act is declared empty. -/
  | emptyResult
deriving DecidableEq, Repr

def Misfit.text : Misfit → String
  | noEmptyValue => "the native type has no value for an empty sequence"
  | unitNotEmpty => "a unit result is always empty"
  | nodeTestOnAtomic => "node tests need a node native type"
  | atomicTypeOnNode => "atomic types need an atomic native type"
  | manyWithoutArray => "'+' and '*' need a Vec native type"
  | arrayWithoutMany => "a Vec native type needs '+' or '*'"
  | optionalWithoutDefault => "'?' needs an Option native type"
  | emptyResult => "only a unit result can be declared empty"

/-- Why a parameter or a result has no sequence type. -/
inductive InferenceError where
  /-- The text is no declaration. -/
  | malformed (text : String)
  | unboundPrefix (nsPrefix text : String)
  | unknownAtomicType (name : ExpandedName)
  /-- Elements of an array may be absent. -/
  | nullableInSequence (native : String)
  | nested (what : Nesting) (native : String)
  | incompatible (declared native : String) (reason : Misfit)
deriving DecidableEq, Repr

def InferenceError.message : InferenceError → String
  | malformed s => "invalid sequence type '" ++ s ++ "': <syntax>"
  | unboundPrefix p s => "namespace prefix '" ++ p ++ "' is not bound (in '" ++ s ++ "')"
  | unknownAtomicType n => "unknown atomic type '" ++ n.text ++ "'"
  | nullableInSequence n =>
    "nullable element type inside a sequence in native type " ++ n ++
      "; declare the cardinality once"
  | nested what n =>
    "nested " ++ what.text ++ " in native type " ++ n ++
      " cannot be represented as an XDM sequence"
  | incompatible d n reason =>
    "sequence type '" ++ d ++ "' is incompatible with native type " ++ n ++ ": " ++ reason.text

/-- The type of one item; at most one wrapper may say how many there are. -/
def NativeType.elementType (native : NativeType) : Except InferenceError ElementType :=
  match native with
  | .single e => .ok e
  | .array n element _ =>
    match element with
    | .nullable .. => .error (.nullableInSequence n)
    | .array .. => .error (.nested .arrays n)
    | .single e => if e.shape = .unit then .error (.nested .units n) else .ok e
  | .nullable n element _ =>
    match element with
    | .nullable .. => .error (.nested .options n)
    | .array .. => .error (.nested .optionalArrays n)
    | .single e => if e.shape = .unit then .error (.nested .units n) else .ok e

def ElementType.itemTest (e : ElementType) : ItemTest :=
  match e.shape with
  | .atomic a => .atomic a
  | .node => .anyNode
  | .item | .unit => .anyItem

def NativeType.occurrence : NativeType → Occurrence
  | .array .. => .zeroOrMore
  | .nullable .. => .zeroOrOne
  | .single e => if e.valueType then .one else .zeroOrOne

namespace Declaration

/-- Look a name up; without a prefix it is in the implied namespace. -/
def resolveName (ns : Namespaces) (written : String) (implied : Option String) (n : LexicalName) :
    Except InferenceError ExpandedName :=
  match n.nsPrefix with
  | none => .ok ⟨implied, n.localName⟩
  | some p =>
    match ns.resolve? p with
    | some u => .ok ⟨some u, n.localName⟩
    | none => .error (.unboundPrefix p written)

section

variable (ns : Namespaces) (written : String)

/-- Names of nodes are in no namespace by default. -/
def resolveNameTest : NameTest → Except InferenceError (Option ExpandedName)
  | .wildcard => .ok none
  | .named n => some <$> resolveName ns written none n

/-- Names of types are names of built-in types by default. -/
def resolveTypeName (n : LexicalName) : Except InferenceError ExpandedName :=
  resolveName ns written (some Namespace.schema) n

def ElementTest.resolve : ElementTest → Except InferenceError XPathExtension.ElementTest
  | anything => .ok (.test none none false)
  | test n none => return .test (← resolveNameTest ns written n) none false
  | test n (some t) => do
    let name ← resolveNameTest ns written n
    return .test name (some (← resolveTypeName ns written t.type)) t.nillable
  | declared n => return .declared (← resolveName ns written none n)

def AttributeTest.resolve : AttributeTest → Except InferenceError XPathExtension.AttributeTest
  | anything => .ok (.test none none)
  | test n none => return .test (← resolveNameTest ns written n) none
  | test n (some t) => do
    let name ← resolveNameTest ns written n
    return .test name (some (← resolveTypeName ns written t))
  | declared n => return .declared (← resolveName ns written none n)

def ItemTest.resolve : ItemTest → Except InferenceError XPathExtension.ItemTest
  | anyItem => .ok .anyItem
  | anyNode => .ok .anyNode
  | textNode => .ok .textNode
  | comment => .ok .comment
  | processingInstruction t => .ok (.processingInstruction t)
  | document none => .ok (.document none)
  | document (some e) => return .document (some (← e.resolve ns written))
  | element e => return .element (← e.resolve ns written)
  | attributeNode a => return .attributeNode (← a.resolve ns written)
  | atomic n => do
    let name ← resolveTypeName ns written n
    match AtomicType.ofName? name with
    | some a => .ok (.atomic a)
    | none => .error (.unknownAtomicType name)

end

end Declaration

def NativeType.hasDefault (native : NativeType) : Bool := native.default?.isSome

/-- What keeps a native type from carrying a declared item test and number of items. -/
def NativeType.misfit? (native : NativeType) (e : ElementType) (test : ItemTest) (o : Occurrence) :
    Option Misfit :=
  if native.isUnit then (if o.allowsEmpty then none else some .unitNotEmpty)
  else if e.atomicType?.isSome && test.isNodeTest then some .nodeTestOnAtomic
  else if e.shape == .node && test.atomicType?.isSome then some .atomicTypeOnNode
  else if o.allowsMany && !native.isArray then some .manyWithoutArray
  else if !o.allowsMany && native.isArray then some .arrayWithoutMany
  else if o == .zeroOrOne && !native.hasDefault then some .optionalWithoutDefault
  else none

namespace SequenceType

/-- The sequence type of a native type without a declaration. -/
def ofNative (native : NativeType) (e : ElementType) : SequenceType :=
  if native.isUnit then .empty else .typed ⟨e.itemTest, e⟩ native.occurrence

def ofDeclaration (native : NativeType) (e : ElementType) (ns : Namespaces) (text : String) :
    Declaration → Except InferenceError SequenceType
  | .empty =>
    if native.isUnit || native.hasDefault then .ok .empty
    else .error (.incompatible text native.name .noEmptyValue)
  | .typed item o => do
    let test ← item.resolve ns text
    match native.misfit? e test o with
    | some reason => .error (.incompatible text native.name reason)
    | none => .ok (.typed ⟨test, e⟩ o)

/-- The sequence type of a parameter or a result: the declared one, if there is a declaration. -/
def infer (native : NativeType) (declared : Option String) (ns : Namespaces) :
    Except InferenceError SequenceType := do
  let e ← native.elementType
  match declared with
  | none => .ok (ofNative native e)
  | some text =>
    match Declaration.read? text with
    | none => .error (.malformed text)
    | some d => ofDeclaration native e ns text d

end SequenceType

end XPathExtension
