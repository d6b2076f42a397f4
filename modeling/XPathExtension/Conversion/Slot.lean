import XPathExtension.Conversion.Atomic
import XPathExtension.Conversion.NodeTest
import XPathExtension.SequenceType.Text

/-!
Slots: the places of a signature, where sequences become native values and native values become
sequences. A slot has a sequence type for the one side and a native type for the other.
-/

namespace XPathExtension

/-- A parameter or a result of a signature. -/
structure Slot where
  type : SequenceType
  native : NativeType
deriving DecidableEq, Repr

namespace Slot

/-- What an occurrence asks for, in messages about a wrong number of items. -/
def expectedText : Occurrence → String
  | .one => "exactly one item"
  | .zeroOrOne => "at most one item"
  | .oneOrMore | .zeroOrMore => "at least one item"

def requireNode (t : ItemType) : Item → Except ConversionError Node
  | .node n => if t.test.accepts n then .ok n else .error (.otherNode n.kind t.text)
  | .atomic a => .error (.notANode a.type t.text)

/-- The native value of one item. A native atomic type decides by itself what items are cast to;
items that stay items are cast or tested as their declared type says. -/
def receiveItem (t : ItemType) (ns : Namespaces) (i : Item) :
    Except ConversionError NativeValue :=
  match t.native.shape with
  | .atomic a => (Cast.toNative i.atomize a ns).mapError .cast
  | .node => .node <$> requireNode t i
  | .item =>
    match t.test.atomicType? with
    | some a => (fun v => .item (.atomic v)) <$> i.atomize.cast a ns
    | none =>
      if t.test.isNodeTest then (fun n => .item (.node n)) <$> requireNode t i
      else .ok (.item i)
  | .unit => .error .unitItem

variable (s : Slot)

/-- What stands for no items. -/
def receiveNone : Except ConversionError NativeValue :=
  match s.native.default? with
  | some v => .ok v
  | none => .error (.absent s.type.text)

def receive (arg : Sequence) (ns : Namespaces) : Except ConversionError NativeValue :=
  match s.type with
  | .empty => if arg.isEmpty then s.receiveNone else .error .notEmpty
  | .typed t o =>
    if !o.accepts arg.length then
      .error (.wrongCount (expectedText o) s.type.text arg.length)
    else if o.allowsMany then .sequence <$> arg.mapM (receiveItem t ns)
    else
      match arg with
      | i :: _ => receiveItem t ns i
      | [] => s.receiveNone

/-- The node to deliver: where an element is declared, the first element in what was built. -/
def deliverNode (n : Node) : Except ConversionError Item :=
  if s.type.item?.any (·.test.isElementTest) then
    match n.firstElement? with
    | some e => .ok (.node e)
    | none => .error .noElement
  else .ok (.node n)

/-- The atomic value of a native value that is neither a node nor an item: of the native type first,
and then of the declared one. -/
def deliverScalar (v : NativeValue) (ns : Namespaces) : Except ConversionError Item :=
  match s.type.item? with
  | none => .error (.native (v.mismatch "atomic native type"))
  | some t =>
    match t.native.atomicType? with
    | none => .error (.native (v.mismatch "atomic native type"))
    | some a => do
      let natural ← (AtomicValue.ofNative a v).mapError .native
      match t.test.atomicType? with
      | none => return .atomic natural
      | some d =>
        if d = .anyAtomic ∨ d = a then return .atomic natural
        else return .atomic (← natural.cast d ns)

/-- The item of a native value that is no sequence and not absent. An item is cast to the declared
atomic type, if there is one. -/
def deliverItem (v : NativeValue) (ns : Namespaces) : Except ConversionError Item :=
  match v with
  | .item i =>
    match s.type.item?.bind (·.test.atomicType?) with
    | some d => .atomic <$> i.atomize.cast d ns
    | none =>
      match i with
      | .node n => s.deliverNode n
      | .atomic a => .ok (.atomic a)
  | .node n => s.deliverNode n
  | v => s.deliverScalar v ns

mutual

def deliver (ns : Namespaces) : NativeValue → Except ConversionError Sequence
  | .unit => .ok []
  | .null => .ok []
  | .sequence vs => deliverAll ns vs
  | v => List.singleton <$> s.deliverItem v ns

/-- The sequences of several native values, one after the other. -/
def deliverAll (ns : Namespaces) : List NativeValue → Except ConversionError Sequence
  | [] => .ok []
  | v :: vs => return (← deliver ns v) ++ (← deliverAll ns vs)

end

end Slot

end XPathExtension
