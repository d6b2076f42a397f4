import XPathExtension.Node

/-!
Searches for an element, step by step. The nodes still to be looked at are on a stack. A step takes
the last one off and puts its children there in its place, the first child on top.
-/

namespace XPathExtension

/-- A search that has nodes to look at, the next one last, or one that is over. -/
inductive Search where
  | pending (stack : List Node)
  | ended (found : Option Node)

namespace Search

def start (n : Node) : Search :=
  if n.kind = .element then ended (some n) else pending n.children.reverse

/-- A search ends with the first element that is taken off the stack, and with nothing when the
stack is empty. -/
def step : Search → Search
  | pending stack =>
    match stack.getLast? with
    | none => ended none
    | some n =>
      if n.kind = .element then ended (some n)
      else pending (stack.dropLast ++ n.children.reverse)
  | ended found => ended found

def run : Nat → Search → Search
  | 0, s => s
  | k + 1, s => run k s.step

end Search

end XPathExtension
