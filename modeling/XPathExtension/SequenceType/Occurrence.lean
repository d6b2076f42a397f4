/-!
Occurrences: how many items a sequence of a type may have.
-/

namespace XPathExtension

/-- The number of items that a sequence type allows. -/
inductive Occurrence where
  | one | zeroOrOne | oneOrMore | zeroOrMore
deriving DecidableEq, Repr

namespace Occurrence

def allowsEmpty : Occurrence → Bool
  | zeroOrOne | zeroOrMore => true
  | one | oneOrMore => false

def allowsMany : Occurrence → Bool
  | oneOrMore | zeroOrMore => true
  | one | zeroOrOne => false

/-- Whether `n` items are as many as allowed. -/
def accepts : Occurrence → Nat → Bool
  | one, n => n == 1
  | zeroOrOne, n => n ≤ 1
  | oneOrMore, n => 1 ≤ n
  | zeroOrMore, _ => true

def indicator : Occurrence → String
  | one => ""
  | zeroOrOne => "?"
  | oneOrMore => "+"
  | zeroOrMore => "*"

@[simp] theorem accepts_zero (o : Occurrence) : o.accepts 0 = o.allowsEmpty := by
  cases o <;> rfl

@[simp] theorem accepts_one (o : Occurrence) : o.accepts 1 = true := by
  cases o <;> rfl

theorem accepts_two (o : Occurrence) : o.accepts 2 = o.allowsMany := by
  cases o <;> rfl

end Occurrence

end XPathExtension
