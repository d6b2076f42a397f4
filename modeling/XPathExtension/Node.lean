import XPathExtension.Node.Tree

/-!
Nodes: places in document trees. A node remembers the way up to the root, so that two nodes with the
same content at different places differ, and the axes are read off the tree.
-/

namespace XPathExtension

/-- A step down: to the attribute or the child at a position. -/
inductive Step where
  | toAttribute (index : Nat)
  | toChild (index : Nat)
deriving DecidableEq, Repr

/-- A step together with the tree it was taken from. -/
structure Ancestor where
  tree : Tree
  step : Step

/-- A place in a tree: the subtree there and the way up, nearest ancestor first. -/
structure Node where
  tree : Tree
  above : List Ancestor

namespace Node

def ofTree (t : Tree) : Node := ⟨t, []⟩

variable (n : Node)

def kind : NodeKind := n.tree.kind

def name : Option QName := n.tree.name

def stringValue : String := n.tree.stringValue

def path : List Step := n.above.map (·.step)

def isRoot : Bool := n.above.isEmpty

def children : List Node :=
  n.tree.children.mapIdx fun i t => ⟨t, ⟨n.tree, .toChild i⟩ :: n.above⟩

def attributes : List Node :=
  n.tree.attributes.mapIdx fun i t => ⟨t, ⟨n.tree, .toAttribute i⟩ :: n.above⟩

def parent : Option Node :=
  match n.above with
  | [] => none
  | a :: above => some ⟨a.tree, above⟩

theorem parent_of_mem_children {c : Node} (h : c ∈ n.children) : c.parent = some n := by
  obtain ⟨i, hi, rfl⟩ := List.mem_mapIdx.1 h
  rfl

theorem parent_of_mem_attributes {a : Node} (h : a ∈ n.attributes) : a.parent = some n := by
  obtain ⟨i, hi, rfl⟩ := List.mem_mapIdx.1 h
  rfl

/-- The end of the way up from `t`. -/
def topOf (t : Tree) : List Ancestor → Tree
  | [] => t
  | a :: above => topOf a.tree above

def root : Node := ofTree (topOf n.tree n.above)

/-- The root is reached from a child as from the node. -/
theorem root_of_mem_children {c : Node} (h : c ∈ n.children) : c.root = n.root := by
  obtain ⟨i, hi, rfl⟩ := List.mem_mapIdx.1 h
  rfl

/-- The node reached by a step down, if it exists. -/
def down? : Step → Option Node
  | .toChild i => n.children[i]?
  | .toAttribute i => n.attributes[i]?

def follow? (n : Node) : List Step → Option Node
  | [] => some n
  | s :: steps => (n.down? s).bind fun m => m.follow? steps

theorem follow?_append (ps qs : List Step) :
    n.follow? (ps ++ qs) = (n.follow? ps).bind fun m => m.follow? qs := by
  induction ps generalizing n with
  | nil => rfl
  | cons p ps ih =>
    simp only [List.cons_append, follow?, Option.bind_assoc]
    exact congrArg _ (funext ih)

/-- The nodes of all subtrees of a worklist, by size. -/
def workload (work : List Node) : Nat := Tree.sizeAll (work.map (·.tree))

@[simp] theorem map_tree_children : n.children.map (·.tree) = n.tree.children := by
  simp only [children, List.mapIdx_eq_zipIdx_map, List.map_map]
  exact List.zipIdx_map_fst 0 _

theorem sizeAll_append (a b : List Tree) :
    Tree.sizeAll (a ++ b) = Tree.sizeAll a + Tree.sizeAll b := by
  induction a with
  | nil => simp [Tree.sizeAll]
  | cons t ts ih => simp [Tree.sizeAll, ih, Nat.add_assoc]

/-- Putting the children in place of a node makes the worklist smaller. -/
theorem workload_children_append_lt (work : List Node) :
    workload (n.children ++ work) < workload (n :: work) := by
  simp only [workload, List.map_append, map_tree_children, sizeAll_append, List.map_cons,
    Tree.sizeAll, n.tree.size_eq]
  omega

/-- The first element met when the worklist is taken from the front and every node that is none is
replaced by its children. -/
def firstElementIn? : List Node → Option Node
  | [] => none
  | n :: work =>
    if n.kind = .element then some n else firstElementIn? (n.children ++ work)
termination_by work => workload work
decreasing_by exact workload_children_append_lt n work

/-- The first element among the node and what is below it. -/
def firstElement? : Option Node :=
  if n.kind = .element then some n else firstElementIn? n.children

end Node

/-- Build a document with one element in it, which has the given attributes and, if there is some,
a text. -/
def Node.construct (name : QName) (attributes : List (QName × String)) (content : Option String) :
    Node :=
  .ofTree (.document [.element name
    (attributes.map fun a => .leaf .attributeNode (some a.1) a.2)
    (content.toList.map fun t => .leaf .text none t)])

end XPathExtension
