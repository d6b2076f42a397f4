import XPathExtension.Name

/-!
Namespace bindings: the table from prefixes to namespaces in which written names are looked up. The
last binding of a prefix counts.
-/

namespace XPathExtension

/-- Bindings of prefixes, each prefix once. -/
structure Namespaces where
  entries : List (String × String)
deriving DecidableEq, Repr

namespace Namespaces

def empty : Namespaces := ⟨[]⟩

/-- Bind a prefix, in place of what it was bound to. -/
def bind (b : Namespaces) (nsPrefix ns : String) : Namespaces :=
  ⟨b.entries.filter (fun e => e.1 != nsPrefix) ++ [(nsPrefix, ns)]⟩

/-- The bindings every module starts from. -/
def builtin : Namespaces :=
  ((empty.bind "xs" Namespace.schema).bind "fn" Namespace.functions).bind "xml" Namespace.xml

def bindAll (b : Namespaces) (es : List (String × String)) : Namespaces :=
  es.foldl (fun b e => b.bind e.1 e.2) b

def resolve? (b : Namespaces) (nsPrefix : String) : Option String := b.entries.lookup nsPrefix

def size (b : Namespaces) : Nat := b.entries.length

def isEmpty (b : Namespaces) : Bool := b.entries.isEmpty

def sorted (b : Namespaces) : List (String × String) :=
  b.entries.mergeSort fun a b => decide (a.1 ≤ b.1)

@[simp] theorem resolve?_empty (p : String) : empty.resolve? p = none := rfl

private theorem lookup_filter_ne (es : List (String × String)) {p q : String} (h : q ≠ p) :
    (es.filter fun e => e.1 != p).lookup q = es.lookup q := by
  induction es with
  | nil => rfl
  | cons e es ih =>
    obtain ⟨k, v⟩ := e
    by_cases hk : k = p
    · subst hk
      have hq : (q == k) = false := by simpa using h
      simp [List.lookup_cons, hq, ih]
    · simp only [List.filter_cons, bne_iff_ne, ne_eq, hk, not_false_eq_true, if_true,
        List.lookup_cons, ih]

private theorem lookup_filter_append (es : List (String × String)) (p u : String) :
    ((es.filter fun e => e.1 != p) ++ [(p, u)]).lookup p = some u := by
  induction es with
  | nil => simp
  | cons e es ih =>
    obtain ⟨k, v⟩ := e
    by_cases hk : k = p
    · subst hk; simpa using ih
    · have hp : (p == k) = false := by simpa using fun h => hk h.symm
      simp only [List.filter_cons, bne_iff_ne, ne_eq, hk, not_false_eq_true, if_true,
        List.cons_append, List.lookup_cons, hp, ih]

@[simp] theorem resolve?_bind_self (b : Namespaces) (p u : String) :
    (b.bind p u).resolve? p = some u :=
  lookup_filter_append b.entries p u

theorem resolve?_bind_of_ne (b : Namespaces) (u : String) {p q : String} (h : q ≠ p) :
    (b.bind p u).resolve? q = b.resolve? q := by
  have hq : (q == p) = false := by simpa using h
  show ((b.entries.filter fun e => e.1 != p) ++ [(p, u)]).lookup q = b.entries.lookup q
  rw [List.lookup_append, lookup_filter_ne _ h]
  simp [List.lookup_cons, hq]

end Namespaces

end XPathExtension
