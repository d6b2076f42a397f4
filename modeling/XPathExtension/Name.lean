/-!
Names: expanded names, which pair a namespace with a local name and identify functions, types and
error codes, and qualified names, which also remember the prefix they were written with. The
namespaces that the language itself gives a meaning to stand first.
-/

namespace XPathExtension

namespace Namespace

def schema : String := "http://www.w3.org/2001/XMLSchema"

def functions : String := "http://www.w3.org/2005/xpath-functions"

def xml : String := "http://www.w3.org/XML/1998/namespace"

def errors : String := "http://www.w3.org/2005/xqt-errors"

/-- No module may put functions into one of these. -/
def reserved : List String := [schema, functions, xml, errors]

end Namespace

/-- A local name in a namespace or in none. -/
structure ExpandedName where
  ns : Option String
  localName : String
deriving DecidableEq, Repr, Inhabited

/-- A name together with the prefix it was written with. -/
structure QName where
  nsPrefix : Option String
  localName : String
  ns : Option String
deriving DecidableEq, Repr, Inhabited

namespace ExpandedName

def inNamespace (ns localName : String) : ExpandedName := ⟨some ns, localName⟩

def schema (localName : String) : ExpandedName := inNamespace Namespace.schema localName

/-- The text of a name: built-in types with the prefix `xs`, other names in a namespace with the
namespace in braces, names in no namespace bare. -/
def text (n : ExpandedName) : String :=
  match n.ns with
  | none => n.localName
  | some ns =>
    if ns = Namespace.schema then "xs:" ++ n.localName
    else "Q\x7b" ++ ns ++ "\x7d" ++ n.localName

/-- The order of names in listings: names in no namespace first, then by namespace, then by local
name. -/
def le (a b : ExpandedName) : Bool :=
  match a.ns, b.ns with
  | none, none => decide (a.localName ≤ b.localName)
  | none, some _ => true
  | some _, none => false
  | some u, some v => decide (u < v) || (decide (u = v) && decide (a.localName ≤ b.localName))

end ExpandedName

/-- The name without its prefix. -/
def QName.expanded (q : QName) : ExpandedName := ⟨q.ns, q.localName⟩

end XPathExtension
