import XPathExtension.Catalog.State
import XPathExtension.Binary.Arithmetic
import XPathExtension.Function

/-!
A catalog of native functions: arithmetic, texts, names, dates, nodes, failures, and methods of a
module that counts and sums. Each one stands under a name.
-/

namespace XPathExtension.Catalog

/-! ### Types in short -/

abbrev i32 : HostType := .base (.integer .i32)
abbrev i64 : HostType := .base (.integer .i64)
abbrev u32 : HostType := .base (.integer .u32)
abbrev u64 : HostType := .base (.integer .u64)
abbrev f64 : HostType := .base .double
abbrev bool : HostType := .base .bool
abbrev string : HostType := .base .string
abbrev qname : HostType := .base .qname
abbrev date : HostType := .base .date
abbrev node : HostType := .base .node
abbrev item : HostType := .base .item

abbrev Function := NativeFunction State

/-! ### Families over all types -/

def identity (t : HostType) : Function := .ofFunction [t] t fun a => a.1

/-- The first of two arguments. -/
def firstOf (t : HostType) : Function := .ofFunction [t, i32] t fun a => a.1

def secondOf (t : HostType) : Function := .ofFunction [i32, t] t fun a => a.2.1

def dropped (t : HostType) : Function := .ofFunction [t] .unit fun _ => ()

/-- The argument itself, counted as a call. -/
def countedIdentity (t : HostType) : Function := .ofMethod [t] t fun a s => (.ok a.1, s.counted)

/-! ### Arithmetic -/

def zero : Function := .ofFunction [] i32 fun _ => ⟨0, by decide⟩

def nothing : Function := .ofFunction [] .unit fun _ => ()

def squareRoot : Function := .ofFunction [f64] f64 fun a => a.1.sqrt

def absolute : Function := .ofFunction [f64] f64 fun a => a.1.abs

def sum : Function :=
  .ofFunction [.list f64] f64 fun a => List.foldl Binary.add (.zero .binary64 false) a.1

/-- The numbers from one up to the argument, at most a thousand. -/
def range : Function :=
  .ofFunction [u32] (.list u32) fun a =>
    (List.range (min a.1.val.toNat 1000)).map fun k => IntegralType.unsignedInt.wrap (k + 1 : Nat)

/-- Sums of 32 bits, which wrap around. -/
def sum32 (ns : List Int) : IntegralType.int.Value := IntegralType.int.wrap (sumOf ns)

def increment : Function := .ofFunction [i32] i32 fun (x, ()) => sum32 [x.val, 1]

def add : Function := .ofFunction [i32, i32] i32 fun (x, y, ()) => sum32 [x.val, y.val]

def addThree : Function :=
  .ofFunction [i32, i32, i32] i32 fun (x, y, z, ()) => sum32 [x.val, y.val, z.val]

def product : Function :=
  .ofFunction [i64, i64] i64 fun (x, y, ()) => IntegralType.long.wrap (x.val * y.val)

def unsignedProduct : Function :=
  .ofFunction [u64, u64] u64 fun (x, y, ()) => IntegralType.unsignedLong.wrap (x.val * y.val)

/-- The quotient toward zero. -/
def quotient : Function :=
  .ofFallible [i64, i64] i64 fun (x, y, ()) =>
    if y.val = 0 then .error (.ofCode .foer0000 "division by zero")
    else .ok (IntegralType.long.wrap (x.val.tdiv y.val))

/-! ### Texts, names and dates -/

def label : Function := .ofFunction [.option string] string fun (s, ()) => Option.getD s "none"

def join : Function :=
  .ofFunction [.list string] string fun (ss, ()) => String.intercalate "," ss

/-- All texts among the arguments, one after the other. -/
def joined : (n : Nat) → HostType.Arguments (List.replicate n string) → String
  | 0, _ => ""
  | n + 1, (s, a) => s ++ joined n a

def concatenation (n : Nat) : Function := .ofFunction (List.replicate n string) string (joined n)

def mixed : Function :=
  .ofFunction [string, i32, .option f64] string fun (s, n, d, ()) =>
    s ++ "/" ++ toString n.val ++ "/" ++ if Option.isSome d then "true" else "false"

def failure : Function :=
  .ofFallible [string, string] i32 fun (code, message, ()) =>
    .error (.ofCode (.ofName code) message)

def namedFailure : Function :=
  .ofFallible [qname, string] .unit fun (code, message, ()) =>
    .error ⟨code.expanded, message, none⟩

def localPart : Function := .ofFunction [qname] string fun (q, ()) => q.localName

def makeName : Function :=
  .ofFunction [.option string, string] qname fun (ns, l, ()) => ⟨none, l, ns⟩

def nextDay : Function := .ofFunction [date] (.option date) fun (d, ()) => Date.next? d

/-! ### Items and nodes -/

def reverse : Function := .ofFunction [.list item] (.list item) fun (is, ()) => List.reverse is

def integerItem : Function :=
  .ofFunction [i64] item fun (n, ()) => .atomic (.integral .integer n)

def untypedItems : Function :=
  .ofFunction [.list string] (.list item) fun (ss, ()) =>
    List.map (fun s => .atomic (.text .untypedAtomic s)) ss

/-- A name in no namespace. -/
def plainName (l : String) : QName := ⟨none, l, none⟩

def makeItem : Function :=
  .ofFunction [string] node fun (s, ()) => .construct (plainName "item") [] (some s)

/-- A document without an element. -/
def textDocument : Function :=
  .ofFunction [] node fun _ => .ofTree (.document [.leaf .text none "t"])

def children : Function := .ofFunction [node] (.list node) fun (n, ()) => Node.children n

/-- The first child element with a local name. -/
def child : Function :=
  .ofFunction [node, string] (.option node) fun (n, l, ()) =>
    (Node.children n).find? fun c => c.kind == .element && c.name.any fun q => q.localName == l

def parent : Function := .ofFunction [node] (.option node) fun (n, ()) => Node.parent n

def textOf : Function := .ofFunction [node] string fun (n, ()) => Node.stringValue n

/-! ### Methods -/

def addToTotal : Function :=
  .ofMethod [i32] .unit fun (x, ()) s => (.ok (), (s.plus [x.val]).counted)

def total : Function := .ofMethod [] i64 fun _ s => (.ok s.total, s)

def calls : Function := .ofMethod [] u64 fun _ s => (.ok s.calls, s)

def takeTwo : Function :=
  .ofMethod [i32, i32] i64 fun (x, y, ()) s => (.ok s.total, s.plus [x.val, y.val])

def takeThree : Function :=
  .ofMethod [i32, i32, i32] i64 fun (x, y, z, ()) s =>
    (.ok s.total, s.plus [x.val, y.val, z.val])

/-- Texts one after the other, with something in front that the state says. -/
def concatenationMethod (n : Nat) (front : State → String) : Function :=
  .ofMethod (List.replicate n string) string fun a s => (.ok (front s ++ joined n a), s)

/-- What a resource gives, or a default without it. -/
def withResource {R α : Type} (r : Option R) (default : α) (f : R → Except Error α) :
    Except Error α :=
  match r with
  | none => .ok default
  | some r => f r

def make : Function :=
  .ofMethod [string] (.option node) fun (l, ()) s =>
    (withResource s.itemFactory none fun f => some <$> f.element (plainName l) [] none, s)

def makeNamed : Function :=
  .ofMethod [qname, .option string] (.option node) fun (q, t, ()) s =>
    (withResource s.itemFactory none fun f =>
      some <$> f.element q [(plainName "id", "1")] t, s)

def processorText : Function :=
  .ofMethod [] (.option string) fun _ s =>
    (.ok (s.processor.map fun p => p.name ++ " " ++ p.version), s)

/-- The clock is a resource that nobody offers. -/
def hasClock : Function := .ofMethod [] bool fun _ s => (.ok false, s)

def document : Function :=
  .ofMethod [string] (.option node) fun (uri, ()) s =>
    (withResource s.resolver none fun r => r.document uri, s)

def collection : Function :=
  .ofMethod [.option string] (.list node) fun (uri, ()) s =>
    (withResource s.resolver [] fun r => r.collection uri, s)

/-! ### Look-up -/

def entries : List (String × Function) :=
  [("zero", zero), ("unit0", nothing), ("sqrt", squareRoot), ("abs", absolute), ("sum", sum),
    ("range", range), ("inc", increment), ("add", add), ("add3", addThree), ("widen", product),
    ("umul", unsignedProduct), ("div", quotient), ("label", label), ("join", join),
    ("cat2", concatenation 2), ("cat3", concatenation 3), ("cat4", concatenation 4),
    ("cat5", concatenation 5), ("cat6", concatenation 6), ("mixed3", mixed), ("raise", failure),
    ("raise_qname", namedFailure), ("qlocal", localPart), ("qmake", makeName),
    ("next_day", nextDay), ("reverse", reverse), ("to_item", integerItem),
    ("str_items", untypedItems), ("make", makeItem), ("empty_doc", textDocument),
    ("children", children), ("child", child), ("parent", parent), ("text_of", textOf),
    ("m.add", addToTotal), ("m.total", total), ("m.calls", calls), ("m.take2", takeTwo),
    ("m.take3", takeThree), ("m.cat4", concatenationMethod 4 fun s => toString s.total.val ++ ":"),
    ("m.cat5", concatenationMethod 5 fun _ => ""), ("m.cat6", concatenationMethod 6 fun _ => ""),
    ("m.make", make), ("m.make_q", makeNamed), ("m.processor", processorText),
    ("m.has_clock", hasClock), ("m.doc", document), ("m.collection", collection),
    ("bad_vec_unit", .ofFunction [i32] (.list .unit) fun _ => []),
    ("bad_opt_unit", .ofFunction [i32] (.option .unit) fun _ => none)]

def families : List (String × (HostType → Function)) :=
  [("id", identity), ("first", firstOf), ("second", secondOf), ("drop", dropped),
    ("mid", countedIdentity)]

end XPathExtension.Catalog
